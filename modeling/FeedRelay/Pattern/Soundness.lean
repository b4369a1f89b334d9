import FeedRelay.Pattern.Reader

/-!
# Sound patterns

A pattern is sound if it can be matched without tables of Unicode and never matches a part of a
character. So the shorthands for digits, blanks and words are for bytes only, as are the edges of
words; letters without regard to case need bytes too; and a set of bytes never holds any that are
not ASCII. Patterns speak of characters unless they are switched to bytes.
-/

namespace FeedRelay.Pattern

/-- What is switched on of the switches that soundness depends on. -/
structure Mode where
  unicode : Bool
  anyCase : Bool
  deriving DecidableEq, Repr

/-- The mode at the beginning of a pattern. -/
def Mode.start : Mode := ⟨true, false⟩

/-- The mode behind a switching. -/
def Mode.apply (m : Mode) (s : Switching) : Mode :=
  ⟨s.apply .unicode m.unicode, s.apply .anyCase m.anyCase⟩

/-- Whether a character is sound in a mode. -/
def Mode.hasLiteral (m : Mode) (l : Literal) : Bool :=
  if m.unicode then !m.anyCase else !l.isByte || l.char.toNat < 0x80

mutual

/-- Whether a member of a set is sound in a mode. -/
def Mode.hasMember (m : Mode) : Member → Bool
  | .range first last =>
    if m.unicode then !m.anyCase else first.char.toNat < 0x80 && last.char.toNat < 0x80
  | .named negated => if m.unicode then !m.anyCase else !negated
  | .shorthand negated => !m.unicode && !negated
  | .property => false
  | .nested negated inner => (m.unicode || !negated) && m.hasMembers inner

/-- Whether the members of a set are sound in a mode. -/
def Mode.hasMembers (m : Mode) : Members → Bool
  | .union members => m.hasUnion members
  | .combined first members => m.hasMembers first && m.hasUnion members

/-- Whether some members of a set are sound in a mode. -/
def Mode.hasUnion (m : Mode) : List Member → Bool
  | [] => true
  | member :: rest => m.hasMember member && m.hasUnion rest

end

mutual

/-- The mode behind a pattern, if the pattern is sound in the mode before it. -/
def Mode.behind? (m : Mode) : Pattern → Option Mode
  | .switch s => some (m.apply s)
  | .literal l => if m.hasLiteral l then some m else none
  | .anyCharacter => if m.unicode then some m else none
  | .anchor => some m
  | .wordEdge => if m.unicode then none else some m
  | .shorthand negated => if m.unicode || negated then none else some m
  | .property => none
  | .set negated members =>
    if (m.unicode || !negated) && m.hasMembers members then some m else none
  | .repeated p => m.behind? p
  | .group _ s p => ((m.apply s).behind? p).map fun _ => m
  | .sequence parts => m.behindAll? parts
  | .choice parts => m.behindAll? parts

/-- The mode behind the parts of a sequence or a choice. -/
def Mode.behindAll? (m : Mode) : List Pattern → Option Mode
  | [] => some m
  | p :: rest => (m.behind? p).bind fun m => m.behindAll? rest

end

/-- How deep the parts of a pattern may be inside one another. -/
def heightLimit : Nat := 250

/-- Whether a pattern is sound: it is not too deep, no two groups have one name, and each part is
sound in its mode. -/
def isSound (p : Pattern) : Bool :=
  p.height ≤ heightLimit && decide p.names.Nodup && (Mode.start.behind? p).isSome

/-- Whether a text is a sound pattern. -/
def isPattern (text : List Char) : Bool :=
  (read? text).any isSound

end FeedRelay.Pattern
