import FeedRelay.Text.Utf8

/-!
# Faults of JSON texts

Where and why a text is no JSON. A fault remembers how many bytes of the text were left when
it was found; line and column follow from that and the text.
-/

namespace FeedRelay.Json

/-- Why a text is no JSON. -/
inductive Cause where
  | endOfList
  | endOfObject
  | endOfString
  | endOfValue
  | expectedColon
  | expectedListCommaOrEnd
  | expectedObjectCommaOrEnd
  | expectedIdent
  | expectedValue
  | invalidEscape
  | invalidNumber
  | numberOutOfRange
  | controlCharacter
  | keyNotString
  | loneSurrogate
  | trailingComma
  | trailingCharacters
  | unfinishedSurrogatePair
  | nestedTooDeeply
  deriving DecidableEq, Repr

/-- The wording of a cause. -/
def Cause.message : Cause → String
  | .endOfList => "EOF while parsing a list"
  | .endOfObject => "EOF while parsing an object"
  | .endOfString => "EOF while parsing a string"
  | .endOfValue => "EOF while parsing a value"
  | .expectedColon => "expected `:`"
  | .expectedListCommaOrEnd => "expected `,` or `]`"
  | .expectedObjectCommaOrEnd => "expected `,` or `\x7d`"
  | .expectedIdent => "expected ident"
  | .expectedValue => "expected value"
  | .invalidEscape => "invalid escape"
  | .invalidNumber => "invalid number"
  | .numberOutOfRange => "number out of range"
  | .controlCharacter =>
    "control character (\\u0000-\\u001F) found while parsing a string"
  | .keyNotString => "key must be a string"
  | .loneSurrogate => "lone leading surrogate in hex escape"
  | .trailingComma => "trailing comma"
  | .trailingCharacters => "trailing characters"
  | .unfinishedSurrogatePair => "unexpected end of hex escape"
  | .nestedTooDeeply => "recursion limit exceeded"

/-- A fault: its cause, and how many bytes of the text come after the place of the fault. -/
structure Fault where
  cause : Cause
  left : Nat
  deriving DecidableEq, Repr

/-- A fault behind the characters read so far. -/
def Fault.before (cause : Cause) (rest : List Char) : Fault :=
  ⟨cause, Text.Utf8.size rest⟩

/-- A fault at the next byte, which counts as read; at the end of the text there is none. -/
def Fault.at (cause : Cause) (rest : List Char) : Fault :=
  ⟨cause, Text.Utf8.size rest - 1⟩

/-- The line, counted from one, and the number of bytes read on it. -/
def Fault.position (fault : Fault) (text : List Char) : Nat × Nat :=
  let bytes := Text.Utf8.encode text
  let read := bytes.take (bytes.length - fault.left)
  (1 + read.count 0x0A, (read.reverse.takeWhile (· ≠ 0x0A)).length)

/-- The wording of a fault in a text. -/
def Fault.message (fault : Fault) (text : List Char) : String :=
  let (line, column) := fault.position text
  s!"{fault.cause.message} at line {line} column {column}"

end FeedRelay.Json
