import FeedRelay.Pattern.Basic
import FeedRelay.Text.Blank
import FeedRelay.Text.Hex
import FeedRelay.Text.Letter

/-!
# Reading patterns

Most characters stand for themselves. The others repeat what is before them, open and close groups
and sets, choose, and mark ends of lines; behind a backslash they stand for themselves as well.
A pattern stands between braces, so it holds no closing brace, and what an opening brace announces
is never complete.
-/

namespace FeedRelay.Pattern

/-- Skip blanks and comments, which end with their line. -/
def skipSpace (inComment : Bool) : List Char → List Char
  | [] => []
  | c :: rest =>
    if inComment then skipSpace (c ≠ '\n') rest
    else if Text.isBlank c then skipSpace false rest
    else if c = '#' then skipSpace true rest
    else c :: rest

/-- Skip blanks and comments where they do not count. -/
def skip (spaced : Bool) (text : List Char) : List Char :=
  if spaced then skipSpace false text else text

/-- The character of so many hexadecimal digits. -/
def hexadecimal (spaced : Bool) : (digits : Nat) → (value : Nat) → List Char →
    Option (Char × List Char)
  | 0, n, text => if n.isValidChar then some (Char.ofNat n, skip spaced text) else none
  | digits + 1, n, text =>
    match skip spaced text with
    | c :: rest => (Text.Hex.value? c).bind fun d => hexadecimal spaced digits (16 * n + d) rest
    | [] => none

/-- The character of an escape with a letter. -/
def letterEscape? : Char → Option Char
  | 'a' => some '\x07'
  | 'f' => some '\x0c'
  | 'n' => some '\n'
  | 'r' => some '\r'
  | 't' => some '\t'
  | 'v' => some '\x0b'
  | _ => none

/-- Whether a character stands for itself behind a backslash. -/
def isEscapable (c : Char) : Bool :=
  c.toNat < 0x80 && !c.isAlphanum && c ≠ '<' && c ≠ '>'

/-- What is behind a backslash. -/
def escape (spaced : Bool) : List Char → Option (Pattern × List Char)
  | 'x' :: rest =>
    (hexadecimal spaced 2 0 rest).map fun (c, rest) => (.literal ⟨c, true⟩, rest)
  | 'u' :: rest =>
    (hexadecimal spaced 4 0 rest).map fun (c, rest) => (.literal ⟨c, false⟩, rest)
  | 'U' :: rest =>
    (hexadecimal spaced 8 0 rest).map fun (c, rest) => (.literal ⟨c, false⟩, rest)
  | 'b' :: '\x7b' :: _ => none
  | c :: rest =>
    if isEscapable c then some (.literal ⟨c, false⟩, rest)
    else if ['d', 's', 'w'].contains c then some (.shorthand false, rest)
    else if ['D', 'S', 'W'].contains c then some (.shorthand true, rest)
    else if ['A', 'z'].contains c then some (.anchor, rest)
    else if ['b', 'B', '<', '>'].contains c then some (.wordEdge, rest)
    else if ['p', 'P'].contains c then
      match skip spaced rest with
      | [] => none
      | name :: rest => if name = '\\' ∨ name = '\x7b' then none else some (.property, rest)
    else (letterEscape? c).map fun c => (.literal ⟨c, false⟩, rest)
  | [] => none

/-! ## Sets -/

/-- The names of sets of ASCII characters. -/
def setNames : List String :=
  ["alnum", "alpha", "ascii", "blank", "cntrl", "digit", "graph", "lower", "print", "punct",
    "space", "upper", "word", "xdigit"]

/-- A set by its name, between colons and behind its opening bracket. -/
def namedSet? : List Char → Option (Member × List Char)
  | ':' :: text =>
    let (negated, text) := match text with
      | '^' :: rest => (true, rest)
      | rest => (false, rest)
    let name := text.takeWhile (· ≠ ':')
    match text.dropWhile (· ≠ ':') with
    | ':' :: ']' :: rest =>
      if setNames.contains (String.ofList name) then some (.named negated, rest) else none
    | _ => none
  | _ => none

/-- A single character as a member of a set. -/
def Member.ofLiteral (l : Literal) : Member := .range l l

/-- A part of a pattern as a member of a set. -/
def Member.ofPattern? : Pattern → Option Member
  | .literal l => some (.ofLiteral l)
  | .shorthand negated => some (.shorthand negated)
  | .property => some .property
  | _ => none

/-- One character of a set, or an escape. -/
def setPart (spaced : Bool) : List Char → Option (Pattern × List Char)
  | '\\' :: rest => escape spaced rest
  | c :: rest => some (.literal ⟨c, false⟩, rest)
  | [] => none

/-- What follows a hyphen, when it is asked whether the hyphen makes a range: the mark of a comment
is passed over, and the comment is not. -/
def behindHyphen (spaced : Bool) (text : List Char) : Option Char :=
  let pass := List.dropWhile Text.isBlank
  if !spaced then text.head?
  else
    match pass text with
    | '#' :: rest => (pass rest).head?
    | rest => rest.head?

/-- A member of a set: a character, an escape, or a range with a hyphen between two characters. -/
def setMember (spaced : Bool) (text : List Char) : Option (Member × List Char) := do
  let (first, rest) ← setPart spaced text
  match skip spaced rest with
  | [] => none
  | '-' :: more =>
    let next := behindHyphen spaced more
    if next = some ']' ∨ next = some '-' then return (← Member.ofPattern? first, '-' :: more)
    let (last, rest) ← setPart spaced (skip spaced more)
    match first, last with
    | .literal a, .literal b => if a.char ≤ b.char then some (.range a b, rest) else none
    | _, _ => none
  | rest => return (← Member.ofPattern? first, rest)

/-- Hyphens at the beginning of a set, which stand for themselves. -/
def leadingHyphens (spaced : Bool) : (fuel : Nat) → List Char → List Member × List Char
  | fuel + 1, '-' :: rest =>
    let (members, rest) := leadingHyphens spaced fuel (skip spaced rest)
    (.ofLiteral ⟨'-', false⟩ :: members, rest)
  | _, text => ([], text)

/-- The beginning of a set behind its opening bracket: whether it is negated, and its first members.
A bracket that would close an empty set stands for itself. -/
def openSet (spaced : Bool) (text : List Char) : Option (Bool × List Member × List Char) :=
  let (negated, text) := match skip spaced text with
    | '^' :: rest => (true, skip spaced rest)
    | rest => (false, rest)
  match leadingHyphens spaced text.length text with
  | (_, []) => none
  | ([], ']' :: rest) => some (negated, [.ofLiteral ⟨']', false⟩], skip spaced rest)
  | (members, rest) => some (negated, members, rest)

/-- Members of a set behind those that it is combined with. -/
def Members.join (before : Option Members) (members : List Member) : Members :=
  match before with
  | none => .union members
  | some first => .combined first members

/-- The rest of a set up to its closing bracket. Each member has a character, so `fuel` need not
exceed the length of the text. -/
def setRest (spaced : Bool) : (fuel : Nat) → (before : Option Members) → List Member →
    List Char → Option (Members × List Char)
  | 0, _, _, _ => none
  | fuel + 1, before, members, text =>
    match skip spaced text with
    | [] => none
    | ']' :: rest => some (.join before members, rest)
    | '[' :: rest =>
      match namedSet? rest with
      | some (member, rest) => setRest spaced fuel before (members ++ [member]) rest
      | none => do
        let (negated, first, rest) ← openSet spaced rest
        let (inner, rest) ← setRest spaced fuel none first rest
        setRest spaced fuel before (members ++ [.nested negated inner]) rest
    | '&' :: '&' :: rest => setRest spaced fuel (some (.join before members)) [] rest
    | '-' :: '-' :: rest => setRest spaced fuel (some (.join before members)) [] rest
    | '~' :: '~' :: rest => setRest spaced fuel (some (.join before members)) [] rest
    | text => do
      let (member, rest) ← setMember spaced text
      setRest spaced fuel before (members ++ [member]) rest

/-- A set behind its opening bracket. -/
def set? (spaced : Bool) (text : List Char) : Option (Pattern × List Char) := do
  let (negated, first, rest) ← openSet spaced text
  let (members, rest) ← setRest spaced (text.length + 1) none first rest
  return (.set negated members, rest)

/-! ## Groups -/

/-- The switch of a letter. -/
def Switch.ofChar? : Char → Option Switch
  | 'i' => some .anyCase
  | 'm' => some .manyLines
  | 's' => some .dotAll
  | 'U' => some .lazyFirst
  | 'u' => some .unicode
  | 'R' => some .lineEnds
  | 'x' => some .spaced
  | _ => none

/-- Switches up to a colon or a closing parenthesis, which is given as well. A hyphen before some
switches them off, and none is named twice. -/
def switches (s : Switching) (negated : Bool) : List Char → Option (Switching × Char × List Char)
  | [] => none
  | c :: rest =>
    if c = ':' ∨ c = ')' then
      if negated ∧ s.off.isEmpty then none else some (s, c, rest)
    else if c = '-' then if negated then none else switches s true rest
    else do
      let switch ← Switch.ofChar? c
      if s.on.contains switch ∨ s.off.contains switch then none
      else if negated then switches { s with off := s.off ++ [switch] } true rest
      else switches { s with on := s.on ++ [switch] } false rest

/-- The name of a group up to its closing angle. -/
def groupName (text : List Char) : Option (String × List Char) :=
  let isInner (c : Char) : Bool := ['_', '.', '[', ']'].contains c || Text.isLetterOrDigit c
  let isFirst (c : Char) : Bool := c = '_' || Text.isLetter c
  match text.takeWhile (· ≠ '>'), text.dropWhile (· ≠ '>') with
  | c :: name, _ :: rest =>
    if isFirst c && name.all isInner then some (String.ofList (c :: name), rest) else none
  | _, _ => none

/-- What an opening parenthesis begins. -/
inductive Opening where
  | switching (s : Switching)
  | group (name : Option String) (s : Switching)

/-- What an opening parenthesis begins, by what is behind it. Looking ahead or back is no part of
these patterns. -/
def opening (spaced : Bool) (text : List Char) : Option (Opening × List Char) :=
  match skip spaced text with
  | '?' :: '=' :: _ => none
  | '?' :: '!' :: _ => none
  | '?' :: '<' :: '=' :: _ => none
  | '?' :: '<' :: '!' :: _ => none
  | '?' :: 'P' :: '<' :: rest => named rest
  | '?' :: '<' :: rest => named rest
  | '?' :: rest => do
    let (s, mark, rest) ← switches ⟨[], []⟩ false rest
    if mark = ':' then return (.group none s, rest)
    else if s = ⟨[], []⟩ then none
    else return (.switching s, rest)
  | rest => some (.group none ⟨[], []⟩, rest)
where
  /-- A group with a name. -/
  named (rest : List Char) : Option (Opening × List Char) :=
    (groupName rest).map fun (name, rest) => (.group (some name) ⟨[], []⟩, rest)

/-- The parts with the last one repeated, if there is one and it is no switching. -/
def repeatLast (parts : List Pattern) : Option (List Pattern) :=
  match parts.getLast? with
  | none => none
  | some (.switch _) => none
  | some p => some (parts.dropLast ++ [.repeated p])

/-- Drop the mark that makes a repetition prefer few occurrences. -/
def dropLazy : List Char → List Char
  | '?' :: rest => rest
  | text => text

/-- The rest of a group, or of the whole pattern. `choices` are the parts to choose from that are
complete, and `parts` those of the one being read. Each part has a character, so `fuel` need not
exceed the length of the text. -/
def groupRest : (fuel : Nat) → (spaced inGroup : Bool) → (choices parts : List Pattern) →
    List Char → Option (Pattern × List Char)
  | 0, _, _, _, _, _ => none
  | fuel + 1, spaced, inGroup, choices, parts, text =>
    match skip spaced text with
    | [] => if inGroup then none else some (ofChoices (choices ++ [ofParts parts]), [])
    | '(' :: rest => do
      match ← opening spaced rest with
      | (.switching s, rest) =>
        groupRest fuel (s.apply .spaced spaced) inGroup choices (parts ++ [.switch s]) rest
      | (.group name s, rest) =>
        let (p, rest) ← groupRest fuel (s.apply .spaced spaced) true [] [] rest
        groupRest fuel spaced inGroup choices (parts ++ [.group name s p]) rest
    | ')' :: rest =>
      if inGroup then some (ofChoices (choices ++ [ofParts parts]), rest) else none
    | '|' :: rest => groupRest fuel spaced inGroup (choices ++ [ofParts parts]) [] rest
    | '[' :: rest => do
      let (part, rest) ← set? spaced rest
      groupRest fuel spaced inGroup choices (parts ++ [part]) rest
    | '\\' :: rest => do
      let (part, rest) ← escape spaced rest
      groupRest fuel spaced inGroup choices (parts ++ [part]) rest
    | c :: rest =>
      if c = '\x7b' then none
      else if c = '?' ∨ c = '*' ∨ c = '+' then
        (repeatLast parts).bind fun parts =>
          groupRest fuel spaced inGroup choices parts (dropLazy rest)
      else
        let part : Pattern :=
          if c = '.' then .anyCharacter
          else if c = '^' ∨ c = '$' then .anchor
          else .literal ⟨c, false⟩
        groupRest fuel spaced inGroup choices (parts ++ [part]) rest

/-- Read a pattern. -/
def read? (text : List Char) : Option Pattern :=
  (groupRest (text.length + 1) false false [] [] text).map (·.1)

end FeedRelay.Pattern
