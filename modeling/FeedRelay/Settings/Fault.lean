import FeedRelay.Decimal.Layout
import FeedRelay.Settings.Node
import FeedRelay.Text.Quoted

/-!
# Faults of settings

Why settings cannot be loaded: a file that is not well formed, a variable of the environment
that is no text, or a node that is not what its place asks for.
-/

namespace FeedRelay.Settings

/-- What was found in a place that asks for something else. -/
inductive Found where
  | bool (b : Bool)
  | integer (i : Int)
  | natural (n : Nat)
  | real (x : Decimal.Binary64)
  | text (s : String)
  | nothing
  | list
  | table
  deriving DecidableEq, Repr

/-- How a real number is written in a message: with a point. -/
def realLayout : Decimal.Layout :=
  { Decimal.Layout.plain with wholeEnd := ['.', '0'] }

/-- The wording for what was found where a plain value was asked for. -/
def Found.inPlainPlace : Found → String
  | .bool b => s!"boolean \x60{b}\x60"
  | .integer i => s!"64-bit integer \x60{i}\x60"
  | .natural n => s!"64-bit unsigned integer \x60{n}\x60"
  | .real x => "floating point \x60" ++ String.ofList (Decimal.Layout.plain.render x) ++ "\x60"
  | .text s => "string " ++ Text.quoted s
  | .nothing => "unit value"
  | .list => "sequence"
  | .table => "map"

/-- The wording for what was found where a table or a list was asked for. -/
def Found.inTablePlace : Found → String
  | .integer i => s!"integer \x60{i}\x60"
  | .natural n => s!"integer \x60{n}\x60"
  | .real x => "floating point \x60" ++ String.ofList (realLayout.render x) ++ "\x60"
  | other => other.inPlainPlace

/-- What a node is found to be. -/
def Found.ofNode : Node → Found
  | .leaf _ .nil => .nothing
  | .leaf _ (.bool b) => .bool b
  | .leaf _ (.integer i) => .integer i
  | .leaf _ (.natural n) => .natural n
  | .leaf _ (.real x) => .real x
  | .leaf _ (.text s) => .text s
  | .list _ _ => .list
  | .table _ _ => .table

/-- Why settings cannot be loaded. A place is given by its keys and positions. -/
inductive Fault where
  | malformedFile
  | notText (name : String) (bytes : List UInt8)
  | wrongType (found : Found) (wanted : String) (place : String) (origin : Option String)
  | wrongShape (found : Found) (wanted : String) (place : String)
  | tooShort (length : Nat) (wanted : String) (place : String)
  | missing (place : String)
  deriving DecidableEq, Repr

namespace Fault

/-- A place one step further up: positions follow keys without a dot. -/
def join (step place : String) : String :=
  if place = "" ∨ place.toList.head? = some '[' then step ++ place else step ++ "." ++ place

/-- Change the place of a fault. -/
def mapPlace (f : String → String) : Fault → Fault
  | .wrongType found wanted place origin => .wrongType found wanted (f place) origin
  | .wrongShape found wanted place => .wrongShape found wanted (f place)
  | .tooShort length wanted place => .tooShort length wanted (f place)
  | .missing place => .missing (f place)
  | fault => fault

/-- A fault found below a key. -/
def under (key : String) (fault : Fault) : Fault :=
  fault.mapPlace (join key)

/-- A fault found at a position of a list. -/
def atPosition (i : Nat) (fault : Fault) : Fault :=
  fault.mapPlace fun place => s!"[{i}]" ++ place

/-- The wording of a fault; one of a file has none of its own. -/
def message : Fault → String
  | .malformedFile => ""
  | .notText name bytes =>
    "env variable " ++ Text.quoted name ++ " contains non-Unicode data: " ++
      Text.quotedBytes bytes
  | .wrongType found wanted place origin =>
    "invalid type: " ++ found.inPlainPlace ++ ", expected " ++ wanted ++ " for key \x60" ++
      place ++ "\x60" ++ (origin.map (" in " ++ ·)).getD ""
  | .wrongShape found wanted place =>
    "invalid type: " ++ found.inTablePlace ++ ", expected " ++ wanted ++ " for key \x60" ++
      place ++ "\x60"
  | .tooShort length wanted place =>
    s!"invalid length {length}, expected {wanted} for key \x60{place}\x60"
  | .missing place => "missing configuration field " ++ Text.quoted place

end Fault

end FeedRelay.Settings
