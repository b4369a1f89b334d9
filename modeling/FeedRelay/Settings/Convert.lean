import FeedRelay.Decimal.Literal
import FeedRelay.Settings.Fault
import FeedRelay.Text.LowerCase

/-!
# Converting nodes of settings

What a place asks for is taken from nodes of several types: numbers and switches from texts,
texts from numbers and switches, whole numbers from other ones by rounding. Only tables, lists
and nothing at all are no plain values.
-/

namespace FeedRelay.Settings.Node

/-- The fault of a node that is not what is wanted. -/
def wrong (node : Node) (wanted : String) : Fault :=
  .wrongType (.ofNode node) wanted "" node.origin

/-- The words for a switch that is on. -/
def onWords : List String := ["true", "on", "yes"]

/-- The words for a switch that is off. -/
def offWords : List String := ["false", "off", "no"]

/-- A switch. -/
def toBool (node : Node) : Except Fault Bool :=
  match node with
  | .leaf _ (.bool b) => .ok b
  | .leaf _ (.integer i) => .ok (i ≠ 0)
  | .leaf _ (.natural n) => .ok (n ≠ 0)
  | .leaf _ (.real x) => .ok !x.isZero
  | .leaf origin (.text s) =>
    let word := Text.lower s
    if word = "1" ∨ word ∈ onWords then .ok true
    else if word = "0" ∨ word ∈ offWords then .ok false
    else .error (.wrongType (.text word) "a boolean" "" origin)
  | node => .error (node.wrong "a boolean")

/-- The greatest number of 64 bits. -/
def wordLimit : Nat := Nat.pow 2 64 - 1

/-- A whole number of 64 bits that is not negative. -/
def toNatural (node : Node) : Except Fault Nat :=
  match node with
  | .leaf _ (.bool b) => .ok (if b then 1 else 0)
  | .leaf _ (.natural n) => .ok n
  | .leaf _ (.integer i) =>
    if i < 0 then .error (node.wrong "an unsigned 64 bit or less integer") else .ok i.toNat
  | .leaf _ (.real x) => .ok (x.toNatClamped wordLimit)
  | .leaf _ (.text s) =>
    let word := Text.lower s
    if word ∈ onWords then .ok 1
    else if word ∈ offWords then .ok 0
    else
      match Decimal.Literal.bounded? wordLimit s.toList with
      | some n => .ok n
      | none => .error (node.wrong "an integer")
  | node => .error (node.wrong "an integer")

/-- A whole number of fewer bits. The message about a greater one no longer knows where it was
found. -/
def toNarrow (bits : Nat) (node : Node) : Except Fault Nat := do
  let n ← node.toNatural
  if n < Nat.pow 2 bits then return n
  else throw (.wrongType (.natural n) s!"an unsigned {bits} bit integer" "" none)

/-- A text. -/
def toText (node : Node) : Except Fault String :=
  match node with
  | .leaf _ (.bool b) => .ok (if b then "true" else "false")
  | .leaf _ (.integer i) => .ok (toString i)
  | .leaf _ (.natural n) => .ok (toString n)
  | .leaf _ (.real x) => .ok (String.ofList (Decimal.Layout.plain.render x))
  | .leaf _ (.text s) => .ok s
  | node => .error (node.wrong "a string")

/-- Convert the items of a list, each at its position. -/
def itemsAs {α : Type} (convert : Node → Except Fault α) :
    Nat → List Node → Except Fault (List α)
  | _, [] => .ok []
  | i, node :: rest => do
    let value ← (convert node).mapError (Fault.atPosition i)
    return value :: (← itemsAs convert (i + 1) rest)

/-- A list. -/
def toList {α : Type} (convert : Node → Except Fault α) (node : Node) :
    Except Fault (List α) :=
  match node with
  | .list _ items => itemsAs convert 0 items
  | node => .error (.wrongShape (.ofNode node) "a sequence" "")

/-- Something that may be left out: then there is nothing. -/
def toOption {α : Type} (convert : Node → Except Fault α) (node : Node) :
    Except Fault (Option α) :=
  if node.isNil then .ok none else (convert node).map some

/-- The fields of a record: by their names, or in their order. -/
inductive Fields where
  | named (members : List (String × Node))
  | placed (items : List Node)

/-- The fields of a node that stands for a record. -/
def toFields (record : String) (node : Node) : Except Fault Fields :=
  match node with
  | .table _ members => .ok (.named members)
  | .list _ items => .ok (.placed items)
  | node => .error (.wrongShape (.ofNode node) record "")

/-- Convert a field; what to do without it depends on how the fields are given. -/
def Fields.get {α : Type} (fields : Fields) (name : String) (place : Nat)
    (convert : Node → Except Fault α) (unnamed unplaced : Except Fault α) : Except Fault α :=
  match fields with
  | .named members =>
    match members.find? (·.1 = name) with
    | some (_, node) => (convert node).mapError (Fault.under name)
    | none => unnamed
  | .placed items =>
    match items[place]? with
    | some node => (convert node).mapError (Fault.atPosition place)
    | none => unplaced

/-- Convert a field that may be missing if fields are named, and be nothing in any case. -/
def Fields.option {α : Type} (fields : Fields) (record name : String) (place : Nat)
    (convert : Node → Except Fault α) : Except Fault (Option α) :=
  fields.get name place (toOption convert) (.ok none) (.error (.tooShort place record ""))

end FeedRelay.Settings.Node
