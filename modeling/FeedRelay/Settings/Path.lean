import FeedRelay.Decimal.Literal

/-!
# Paths into settings

A path names a place in a tree of settings: keys with dots between them, each perhaps followed
by positions in lists, as in `relay.topics[0].name`. A negative position counts from the end.
-/

namespace FeedRelay.Settings

/-- A step of a path. -/
inductive Step where
  | key (name : String)
  | position (i : Int)
  deriving DecidableEq, Repr

namespace Path

/-- The characters of keys in paths. -/
def isKeyChar (c : Char) : Bool :=
  c.isAlphanum || c = '_' || c = '-'

/-- A position behind its opening bracket, and what follows its closing one. -/
def position? (text : List Char) : Option (Int × List Char) := do
  let skipSpaces := List.dropWhile fun (c : Char) => c = ' ' || c = '\t'
  let text := skipSpaces text
  let (negative, rest) := match text with
    | '-' :: rest => (true, rest)
    | rest => (false, rest)
  let digits := rest.takeWhile Char.isDigit
  let n := Decimal.Literal.value digits
  match digits, skipSpaces (rest.dropWhile Char.isDigit) with
  | _ :: _, ']' :: rest =>
    if Nat.pow 2 63 ≤ n then none else return (if negative then -(n : Int) else n, rest)
  | _, _ => none

/-- The steps behind a first key. Each has a mark, so `fuel` need not exceed the length of the
text. -/
def steps? : (fuel : Nat) → List Char → Option (List Step)
  | _, [] => some []
  | 0, _ => none
  | fuel + 1, '.' :: text =>
    let name := text.takeWhile isKeyChar
    if name.isEmpty then none
    else (steps? fuel (text.dropWhile isKeyChar)).map (.key (String.ofList name) :: ·)
  | fuel + 1, '[' :: text => do
    let (i, rest) ← position? text
    return .position i :: (← steps? fuel rest)
  | _, _ => none

/-- Read a path. -/
def parse? (text : String) : Option (List Step) :=
  let cs := text.toList
  let name := cs.takeWhile isKeyChar
  if name.isEmpty then none
  else (steps? cs.length (cs.dropWhile isKeyChar)).map (.key (String.ofList name) :: ·)

end Path

end FeedRelay.Settings
