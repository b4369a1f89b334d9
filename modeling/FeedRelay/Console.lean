import FeedRelay.Feed.Event
import FeedRelay.Topic.Basic

/-!
# The console

Two kinds of lines for a person to read: content, which is the payload of a message, and
status, which is indented and tells of connections. A line may be tagged with a key.
-/

namespace FeedRelay.Console

/-- A line for a person to read. -/
inductive Line where
  | status (text : String) (key : Option String)
  | content (text : String) (key : Option String)
  deriving DecidableEq, Repr

/-- A text behind the tag of a key, if there is one. -/
def tagged (text : String) (key : Option String) : String :=
  match key with
  | some key => "[" ++ key ++ "] " ++ text
  | none => text

/-- A line as it is written, with its end. -/
def Line.render : Line → String
  | .status text key => "    " ++ tagged text key ++ "\n"
  | .content text key => tagged text key ++ "\n"

/-- The line that shows an event of a feed. -/
def lineOf (topic : Topic) : Feed.Event → Line
  | .opened => .status ("Subscribed to " ++ topic.resourcePath) (some topic.displayKey)
  | .message message => .content message.payloadText (some topic.displayKey)
  | .closed (.broken fault) =>
    .status ("Connection to " ++ topic.resourcePath ++ " closed: " ++ fault) none
  | .closed _ => .status ("Connection to " ++ topic.resourcePath ++ " closed.") none

/-- Where lines go: all that was written so far, or nowhere if writing fails. -/
structure Output where
  written : String
  failing : Bool
  deriving DecidableEq, Repr

/-- Write a line. What cannot be written is dropped. -/
def Output.write (out : Output) (line : Line) : Output :=
  if out.failing then out else { out with written := out.written ++ line.render }

end FeedRelay.Console
