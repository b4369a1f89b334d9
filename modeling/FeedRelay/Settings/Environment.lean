import FeedRelay.Settings.Fault
import FeedRelay.Settings.Layers
import FeedRelay.Decimal.Literal
import FeedRelay.Text.LowerCase

/-!
# Settings in the environment

Variables whose names begin with `RELAY_`, in any case, are settings. Two underscores in what
follows separate keys. A value that reads as a switch or as a number is one.
-/

namespace FeedRelay.Settings

/-- A variable of the environment. Its value may be no text. -/
structure Variable where
  name : String
  value : List UInt8
  deriving DecidableEq, Repr

namespace Environment

/-- What the names of settings begin with. -/
def mark : List Char := "relay_".toList

/-- The place where settings of the environment are found. -/
def origin : String := "the environment"

/-- A dot for every two underscores. -/
def dotted : List Char → List Char
  | '_' :: '_' :: rest => '.' :: dotted rest
  | c :: rest => c :: dotted rest
  | [] => []

/-- The plain value of a text. -/
def scalar (text : List Char) : Scalar :=
  match String.ofList (Text.lowerChars text) with
  | "true" => .bool true
  | "false" => .bool false
  | _ =>
    match Decimal.Literal.integer? (-Nat.pow 2 63) (Nat.pow 2 63 - 1) text with
    | some i => .integer i
    | none =>
      match Decimal.Literal.float? text with
      | some x => .real x
      | none => .text (String.ofList text)

/-- The setting of a variable, if it is one. -/
def setting? (v : Variable) : Except Fault (Option (String × Node)) :=
  let name := Text.lowerChars v.name.toList
  if mark.isPrefixOf name then
    let key := name.drop mark.length
    match Text.Utf8.decode? v.value with
    | none => .error (.notText (String.ofList key) v.value)
    | some text =>
      .ok (some (String.ofList (dotted key), .leaf (some origin) (scalar text)))
  else .ok none

/-- Add a setting; of settings with one key, the last one counts. -/
def add (layer : Layer) (key : String) (node : Node) : Layer :=
  layer.filter (·.1 ≠ key) ++ [(key, node)]

/-- The layer of the settings in an environment. -/
def layer (environment : List Variable) : Except Fault Layer :=
  environment.foldlM (fun layer v => do
    match ← setting? v with
    | some (key, node) => return add layer key node
    | none => return layer) []

end Environment

end FeedRelay.Settings
