import FeedRelay.Decimal.Literal
import FeedRelay.Log.Line
import FeedRelay.Pattern.Soundness
import FeedRelay.Text.Blank
import FeedRelay.Text.Letter
import FeedRelay.Text.Split
import FeedRelay.Text.Utf8

/-!
# Filter directives

A directive allows the lines of a target up to a level, as in `relay=debug`. It may be
restricted to what happens in a span, or to lines with given fields, in brackets behind the
target. Without a level everything is allowed, and without a target all targets are meant.
-/

namespace FeedRelay.Log

/-- A field that a directive asks for, and whether it asks for a value. -/
structure FieldMatch where
  name : String
  hasValue : Bool
  deriving DecidableEq, Repr

/-- A directive of a filter. Without a level it allows nothing. -/
structure Directive where
  target : Option (List Char)
  inSpan : Bool
  fields : List FieldMatch
  level : Option Level
  deriving DecidableEq, Repr

namespace Directive

/-- Whether a word is another one in any case of its letters. -/
def isWord (word : String) (cs : List Char) : Bool :=
  String.ofList (cs.map Char.toLower) = word

/-- The level of a number, counted from the weightiest; zero allows nothing. -/
def levelOfNumber? : Nat → Option (Option Level)
  | 0 => some none
  | 1 => some (some .error)
  | 2 => some (some .warn)
  | 3 => some (some .info)
  | 4 => some (some .debug)
  | 5 => some (some .trace)
  | _ => none

/-- The level of a word or a number; the empty word stands for errors. -/
def level? (cs : List Char) : Option (Option Level) :=
  match (Decimal.Literal.bounded? (Nat.pow 2 64 - 1) cs).bind levelOfNumber? with
  | some level => some level
  | none =>
    if cs.isEmpty ∨ isWord "error" cs then some (some .error)
    else if isWord "warn" cs then some (some .warn)
    else if isWord "info" cs then some (some .info)
    else if isWord "debug" cs then some (some .debug)
    else if isWord "trace" cs then some (some .trace)
    else if isWord "off" cs then some none
    else none

/-- The level behind an equals sign; nothing there allows everything. -/
def levelBehindSign? (cs : List Char) : Option (Option Level) :=
  if cs.isEmpty then some (some .trace) else level? cs

/-- The directive of a word alone: a level for all targets, or a target. -/
def ofWord (cs : List Char) : Directive :=
  let level := if cs.isEmpty then some (some .trace) else level? cs
  match level with
  | some level => { target := none, inSpan := false, fields := [], level }
  | none => { target := some cs, inSpan := false, fields := [], level := some .trace }

/-- Where reading is inside of a directive, with the place where the part being read starts. -/
inductive Place where
  | start
  | word (start : Nat)
  | span (start : Nat)
  | field (start : Nat)
  | behindFields
  | behindBrackets
  | level (start : Nat)
  deriving DecidableEq, Repr

/-- Whether a character may begin a directive: letters, digits and a few marks. -/
def begins (c : Char) : Bool :=
  c = '-' || c = ':' || c = '_' || Text.isLetterOrDigit c

/-- Whether a text says which values a field may have: a number, or a pattern. -/
def isValue (cs : List Char) : Bool :=
  (Decimal.Literal.float? cs).isSome || Pattern.isPattern cs

/-- The field of a text, which may ask for a value behind an equals sign. A second sign ends the
value. -/
def field? (cs : List Char) : Option FieldMatch :=
  match Text.splitOnce '=' cs with
  | some (name, rest) =>
    if isValue (rest.takeWhile (· ≠ '=')) then some ⟨String.ofList name, true⟩ else none
  | none => if cs.isEmpty then none else some ⟨String.ofList cs, false⟩

/-- A directive as far as it is read. -/
structure Progress where
  place : Place
  directive : Directive

/-- Read one character. Parts are cut out of the whole `text` at the places counted so far. -/
def step (text : List Char) (p : Progress) (i : Nat) (c : Char) : Option Progress :=
  let cut (start : Nat) : List Char := (text.take i).drop start
  let d := p.directive
  match p.place with
  | .start =>
    if c = '[' then some ⟨.span (i + 1), d⟩
    else if begins c then some ⟨.word i, d⟩
    else none
  | .word start =>
    if c = '=' then some ⟨.level (i + 1), { d with target := some (cut start) }⟩
    else if c = '[' then some ⟨.span (i + 1), { d with target := some (cut start) }⟩
    else some p
  | .span start =>
    if c = ']' then some ⟨.behindBrackets, { d with inSpan := true }⟩
    else if c = '\x7b' then some ⟨.field (i + 1), { d with inSpan := !(cut start).isEmpty }⟩
    else some p
  | .field start =>
    if c = '\x7d' then
      (field? (cut start)).map fun f => ⟨.behindFields, { d with fields := d.fields ++ [f] }⟩
    else some p
  | .behindFields => if c = ']' then some ⟨.behindBrackets, d⟩ else none
  | .behindBrackets => if c = '=' then some ⟨.level (i + 1), d⟩ else none
  | .level _ => some p

/-- Read the characters of a list, counted from a number on. -/
def steps (text : List Char) (p : Progress) (i : Nat) : List Char → Option Progress
  | [] => some p
  | c :: rest => (step text p i c).bind fun p => steps text p (i + 1) rest

/-- The directive that is read when the text ends. -/
def finish (text : List Char) (p : Progress) : Option Directive :=
  match p.place with
  | .word start => some (ofWord (text.drop start))
  | .level start =>
    (levelBehindSign? (text.drop start)).map fun level => { p.directive with level }
  | .behindBrackets => some p.directive
  | _ => none

/-- Read a directive. Blanks around it are passed over, but its parts are counted from the
beginning of the text with its blanks. -/
def parse? (text : List Char) : Option Directive := do
  let start : Directive := { target := none, inSpan := false, fields := [], level := some .trace }
  let p ← steps text ⟨.start, start⟩ 0 (Text.trimChars text)
  finish text p

/-- Whether a directive depends on more than target and level. -/
def isDynamic (d : Directive) : Bool :=
  d.inSpan || !d.fields.isEmpty

/-- Whether a directive can be decided from a line alone. -/
def isStatic (d : Directive) : Bool :=
  !d.inSpan && d.fields.all (!·.hasValue)

/-- Whether a directive speaks about the lines of a target, which have one field: the
message. -/
def covers (d : Directive) (target : List Char) : Bool :=
  (d.target.all fun t => t.isPrefixOf target) && d.fields.all (·.name = "message")

/-- How specific a directive is: by its target and then by its fields. -/
def specificity (d : Directive) : Nat × Nat :=
  match d.target with
  | none => (0, d.fields.length)
  | some t => (Text.Utf8.size t + 1, d.fields.length)

/-- Whether a line of a level is allowed by a directive that covers it. -/
def admits (d : Directive) (level : Level) : Bool :=
  d.level.any fun most => level.rank ≤ most.rank

end Directive

end FeedRelay.Log
