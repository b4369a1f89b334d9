import FeedRelay.Decimal.Binary64

/-!
# JSON values

Whole numbers that fit into 64 bits are kept exactly; every other number is a binary64 one.
The members of an object are sorted by key, and a key occurs once: the value given last is
the one that counts.
-/

namespace FeedRelay.Json

/-- A JSON value. -/
inductive Value where
  | null
  | bool (b : Bool)
  | integer (i : Int)
  | real (x : Decimal.Binary64)
  | string (s : String)
  | array (items : List Value)
  | object (members : List (String × Value))
  deriving Repr

/-- The members of an object. -/
abbrev Members := List (String × Value)

/-- Give a key a value: in its place in the order of keys, and in place of an earlier value. -/
def Members.insert (key : String) (value : Value) : Members → Members
  | [] => [(key, value)]
  | (k, v) :: rest =>
    if key = k then (key, value) :: rest
    else if key < k then (key, value) :: (k, v) :: rest
    else (k, v) :: Members.insert key value rest

/-- The members that result from giving keys their values one after another. -/
def Members.ofList (members : List (String × Value)) : Members :=
  members.foldl (fun sorted (k, v) => Members.insert k v sorted) []

end FeedRelay.Json
