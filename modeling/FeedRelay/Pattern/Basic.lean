/-!
# Patterns of values

A pattern describes texts: by characters, by sets of characters, and by repetition, sequence and
choice. Switches change how the parts behind them are read, up to the end of their group. What a
pattern means is not needed here; its parts are kept as far as they decide whether it is sound.
-/

namespace FeedRelay

namespace Pattern

/-- What may be switched. -/
inductive Switch where
  | anyCase
  | manyLines
  | dotAll
  | lazyFirst
  | unicode
  | lineEnds
  | spaced
  deriving DecidableEq, Repr

/-- What is switched on, and what is switched off. -/
structure Switching where
  on : List Switch
  off : List Switch
  deriving DecidableEq, Repr

/-- How a switch stands behind a switching, given how it stood before. -/
def Switching.apply (s : Switching) (switch : Switch) (before : Bool) : Bool :=
  s.on.contains switch || (before && !s.off.contains switch)

/-- A character of a pattern. One that is written by two hexadecimal digits may stand for a byte. -/
structure Literal where
  char : Char
  isByte : Bool
  deriving DecidableEq, Repr

mutual

/-- A member of a set of characters. A single character is a range of one. -/
inductive Member where
  | range (first last : Literal)
  | named (negated : Bool)
  | shorthand (negated : Bool)
  | property
  | nested (negated : Bool) (inner : Members)

/-- The members of a set. Sets may be combined: by what both have, by what only the first one has,
and by what one of them has alone. -/
inductive Members where
  | union (members : List Member)
  | combined (first : Members) (members : List Member)

end

end Pattern

/-- A pattern. -/
inductive Pattern where
  | switch (s : Pattern.Switching)
  | literal (l : Pattern.Literal)
  | anyCharacter
  | anchor
  | wordEdge
  | shorthand (negated : Bool)
  | property
  | set (negated : Bool) (members : Pattern.Members)
  | repeated (p : Pattern)
  | group (name : Option String) (s : Pattern.Switching) (p : Pattern)
  | sequence (parts : List Pattern)
  | choice (parts : List Pattern)

namespace Pattern

/-- Parts in a row; a single part is no sequence. -/
def ofParts : List Pattern → Pattern
  | [p] => p
  | parts => .sequence parts

/-- Parts to choose from; a single part is no choice. -/
def ofChoices : List Pattern → Pattern
  | [p] => p
  | parts => .choice parts

mutual

/-- How deep sets are inside one another in a member. -/
def Member.height : Member → Nat
  | .nested _ inner => inner.height + 1
  | _ => 0

/-- How deep sets are inside one another in the members of a set. -/
def Members.height : Members → Nat
  | .union members => heightOfUnion members
  | .combined first members => max first.height (heightOfUnion members) + 1

/-- How deep sets are inside one another in some members of a set, of which more than one count as
a set of their own. -/
def heightOfUnion : List Member → Nat
  | [] => 0
  | [m] => m.height
  | m :: rest => max m.height (heightOfOthers rest) + 1

/-- How deep sets are inside one another in the further members of a set. -/
def heightOfOthers : List Member → Nat
  | [] => 0
  | m :: rest => max m.height (heightOfOthers rest)

end

mutual

/-- How deep the parts of a pattern are inside one another. -/
def height : Pattern → Nat
  | .set _ members => members.height + 1
  | .repeated p => p.height + 1
  | .group _ _ p => p.height + 1
  | .sequence parts => heightOfParts parts
  | .choice parts => heightOfParts parts
  | _ => 0

/-- How deep the parts of a sequence or a choice are inside one another. -/
def heightOfParts : List Pattern → Nat
  | [] => 0
  | p :: rest => max (p.height + 1) (heightOfParts rest)

end

mutual

/-- The names of the groups of a pattern. -/
def names : Pattern → List String
  | .repeated p => p.names
  | .group name _ p => name.toList ++ p.names
  | .sequence parts => namesOfParts parts
  | .choice parts => namesOfParts parts
  | _ => []

/-- The names of the groups of the parts of a sequence or a choice. -/
def namesOfParts : List Pattern → List String
  | [] => []
  | p :: rest => p.names ++ namesOfParts rest

end

end Pattern

end FeedRelay
