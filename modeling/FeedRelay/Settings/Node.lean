import FeedRelay.Json.Value
import FeedRelay.Toml.Document

/-!
# Trees of settings

Settings as they are found: tables and lists of plain values, each with the place it was found
in, for messages. Files of both formats are read into such trees.
-/

namespace FeedRelay.Settings

/-- A plain value. Whole numbers beyond the signed 64-bit ones are `natural`. -/
inductive Scalar where
  | nil
  | bool (b : Bool)
  | integer (i : Int)
  | natural (n : Nat)
  | real (x : Decimal.Binary64)
  | text (s : String)
  deriving DecidableEq, Repr

/-- A tree of settings, each node with the place where it was found. -/
inductive Node where
  | leaf (origin : Option String) (value : Scalar)
  | list (origin : Option String) (items : List Node)
  | table (origin : Option String) (members : List (String × Node))
  deriving Repr

/-- The members of a table. -/
abbrev Members := List (String × Node)

namespace Node

/-- No value at all. -/
def nil : Node := .leaf none .nil

/-- Whether a node is no value at all. -/
def isNil : Node → Bool
  | .leaf _ .nil => true
  | _ => false

/-- The place where a node was found. -/
def origin : Node → Option String
  | .leaf origin _ => origin
  | .list origin _ => origin
  | .table origin _ => origin

/-- A whole number of 64 bits. -/
def ofInteger (origin : Option String) (i : Int) : Node :=
  .leaf origin (if i < Nat.pow 2 63 then .integer i else .natural i.toNat)

mutual

/-- The tree of a JSON value. -/
def ofJson (origin : Option String) : Json.Value → Node
  | .null => .leaf origin .nil
  | .bool b => .leaf origin (.bool b)
  | .integer i => ofInteger origin i
  | .real x => .leaf origin (.real x)
  | .string s => .leaf origin (.text s)
  | .array items => .list origin (ofJsonItems origin items)
  | .object members => .table origin (ofJsonMembers origin members)

/-- The trees of the items of a JSON array. -/
def ofJsonItems (origin : Option String) : List Json.Value → List Node
  | [] => []
  | item :: rest => ofJson origin item :: ofJsonItems origin rest

/-- The trees of the members of a JSON object. -/
def ofJsonMembers (origin : Option String) : List (String × Json.Value) → List (String × Node)
  | [] => []
  | (key, value) :: rest => (key, ofJson origin value) :: ofJsonMembers origin rest

end

mutual

/-- The tree of an item of a TOML document. -/
def ofToml (origin : Option String) : Toml.Item → Node
  | .text s => .leaf origin (.text s)
  | .integer i => ofInteger origin i
  | .real x => .leaf origin (.real x)
  | .bool b => .leaf origin (.bool b)
  | .array items => .list origin (ofTomlItems origin items)
  | .table _ members => .table origin (ofTomlMembers origin members)
  | .tables found => .list origin (ofTomlTables origin found)

/-- The trees of the items of an array. -/
def ofTomlItems (origin : Option String) : List Toml.Item → List Node
  | [] => []
  | item :: rest => ofToml origin item :: ofTomlItems origin rest

/-- The trees of the members of a table. -/
def ofTomlMembers (origin : Option String) : List (String × Toml.Item) → List (String × Node)
  | [] => []
  | (key, item) :: rest => (key, ofToml origin item) :: ofTomlMembers origin rest

/-- The trees of a list of tables. -/
def ofTomlTables (origin : Option String) : List (List (String × Toml.Item)) → List Node
  | [] => []
  | members :: rest => .table origin (ofTomlMembers origin members) :: ofTomlTables origin rest

end

end Node

end FeedRelay.Settings
