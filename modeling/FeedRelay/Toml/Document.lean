import FeedRelay.Decimal.Binary64

/-!
# TOML documents

The items of a document, and how its lines build it up. A table is made in one of four ways,
and that decides what may still be added to it: nothing to an inline one, only tables with
headers of their own to one that has a header, and dotted keys too to one that a longer header
merely implies or that dotted keys made.
-/

namespace FeedRelay.Toml

/-- How a table came to be. -/
inductive TableOrigin where
  | inline
  | header
  | implied
  | dotted
  deriving DecidableEq, Repr

/-- An item of a document. Dates and times are kept as texts. -/
inductive Item where
  | text (s : String)
  | integer (i : Int)
  | real (x : Decimal.Binary64)
  | bool (b : Bool)
  | array (items : List Item)
  | table (origin : TableOrigin) (members : List (String × Item))
  | tables (list : List (List (String × Item)))
  deriving Repr

/-- The members of a table. -/
abbrev Members := List (String × Item)

namespace Members

/-- The item of a key. -/
def find? (m : Members) (key : String) : Option Item :=
  (List.find? (fun pair => pair.1 = key) m).map (·.2)

/-- Give a key an item, in place of the one it has. -/
def put (m : Members) (key : String) (item : Item) : Members :=
  if (m.find? key).isSome then m.map fun (k, old) => if k = key then (k, item) else (k, old)
  else m ++ [(key, item)]

/-- Change the table at the end of a header's path. Tables on the way are implied if they are
missing, and of a list of tables the last one is meant. -/
def atHeader (change : Members → Option Members) : List String → Members → Option Members
  | [], m => change m
  | key :: path, m =>
    match m.find? key with
    | none => (atHeader change path []).map fun inner => m.put key (.table .implied inner)
    | some (.table .inline _) => none
    | some (.table origin inner) =>
      (atHeader change path inner).map fun inner => m.put key (.table origin inner)
    | some (.tables list) => do
      let last ← list.getLast?
      let changed ← atHeader change path last
      return m.put key (.tables (list.dropLast ++ [changed]))
    | some _ => none

/-- Make the table of a header, which so far may only be implied. -/
def declareTable (key : String) (m : Members) : Option Members :=
  match m.find? key with
  | none => some (m.put key (.table .header []))
  | some (.table .implied inner) => some (m.put key (.table .header inner))
  | some _ => none

/-- Add a table to the list of tables of a header. -/
def declareInList (key : String) (m : Members) : Option Members :=
  match m.find? key with
  | none => some (m.put key (.tables [[]]))
  | some (.tables list) => some (m.put key (.tables (list ++ [[]])))
  | some _ => none

/-- Give a dotted key an item. It must have none yet, and the tables on the way must not have
a header of their own. Of a list of tables on the way the last one is meant, which takes more
tables but no key of its own. -/
def define (item : Item) : List String → Members → Option Members
  | [], _ => none
  | [key], m => if (m.find? key).isSome then none else some (m.put key item)
  | key :: next :: path, m =>
    match m.find? key with
    | none => (define item (next :: path) []).map fun inner => m.put key (.table .dotted inner)
    | some (.table origin inner) =>
      if origin = .dotted ∨ origin = .implied then
        (define item (next :: path) inner).map fun inner => m.put key (.table origin inner)
      else none
    | some (.tables list) => do
      if path.isEmpty then none
      let last ← list.getLast?
      let changed ← define item (next :: path) last
      return m.put key (.tables (list.dropLast ++ [changed]))
    | some _ => none

end Members

/-- A document as far as it is read: its members, and the path of the header that the next
keys belong to. -/
structure Document where
  members : Members
  current : List String
  deriving Repr

namespace Document

/-- A document of which nothing is read. -/
def empty : Document := ⟨[], []⟩

/-- Go on behind the header of a table, or of a table of a list. -/
def openHeader (doc : Document) (inList : Bool) (path : List String) : Option Document := do
  let key ← path.getLast?
  let declare := if inList then Members.declareInList key else Members.declareTable key
  let members ← doc.members.atHeader declare path.dropLast
  return { members, current := path }

/-- Give a dotted key of the current table an item. -/
def define (doc : Document) (path : List String) (item : Item) : Option Document := do
  let members ← doc.members.atHeader (Members.define item path) doc.current
  return { doc with members }

end Document

end FeedRelay.Toml
