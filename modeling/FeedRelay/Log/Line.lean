/-!
# Log lines

What the relay reports about itself: a line of text with the weight it has.
-/

namespace FeedRelay.Log

/-- How much a line matters, the weightiest first. -/
inductive Level where
  | error
  | warn
  | info
  | debug
  | trace
  deriving DecidableEq, Repr

/-- The place of a level, counted from the weightiest. -/
def Level.rank : Level → Nat
  | .error => 1
  | .warn => 2
  | .info => 3
  | .debug => 4
  | .trace => 5

/-- The word that stands for a level. -/
def Level.label : Level → String
  | .error => "ERROR"
  | .warn => "WARN"
  | .info => "INFO"
  | .debug => "DEBUG"
  | .trace => "TRACE"

/-- The part of the relay that a line comes from. -/
inductive Area where
  | program
  | connection
  | subscriptions
  | broadcast
  | server
  deriving DecidableEq, Repr

/-- The name by which a filter knows a part of the relay. -/
def Area.target : Area → String
  | .program => "subrelay"
  | .connection => "subrelay::upstream::subscription"
  | .subscriptions => "subrelay::multiplexer"
  | .broadcast => "subrelay::relay::broadcaster"
  | .server => "subrelay::transport::websocket"

/-- A line of the log. -/
structure Line where
  area : Area
  level : Level
  text : String
  deriving DecidableEq, Repr

/-- A line with its level before it. -/
def Line.render (line : Line) : String :=
  line.level.label ++ " " ++ line.text

/-- A character as it is printed: those that would control a terminal are spelled out. -/
def printedChar (c : Char) : String :=
  let n := c.toNat
  if n = 0x07 then "\\x07"
  else if n = 0x08 then "\\x08"
  else if n = 0x0C then "\\x0c"
  else if n = 0x1B then "\\x1b"
  else if n = 0x7F then "\\x7f"
  else if 0x80 ≤ n ∧ n ≤ 0x9F then
    "\\u\x7b" ++ String.ofList (Nat.toDigits 16 n) ++ "\x7d"
  else String.singleton c

/-- A line as it is printed, with its level before it. -/
def Line.printed (line : Line) : String :=
  line.level.label ++ " " ++ String.join (line.text.toList.map printedChar)

/-- A line about something that failed for good. -/
def error (area : Area) (text : String) : Line := ⟨area, .error, text⟩

/-- A line about something that went wrong. -/
def warn (area : Area) (text : String) : Line := ⟨area, .warn, text⟩

/-- A line about the usual course of things. -/
def info (area : Area) (text : String) : Line := ⟨area, .info, text⟩

/-- A line about details. -/
def debug (area : Area) (text : String) : Line := ⟨area, .debug, text⟩

end FeedRelay.Log
