import FeedRelay.Settings.Environment
import FeedRelay.Text.Blank
import FeedRelay.Text.Letter

/-!
# Files of variables

A file may give variables to the environment, one in a line: a name, an equals sign and a value,
which may be quoted and may refer to other variables behind a dollar sign. A variable that the
environment has already is not changed. Reading ends at the first line that is not well formed;
what was read before counts.
-/

namespace FeedRelay.CommandLine.EnvironmentFile

/-- The text of a variable, if it is there and is text. -/
def lookup? (environment : List Settings.Variable) (name : List Char) : Option (List Char) :=
  (environment.find? (·.name = String.ofList name)).bind fun v => Text.Utf8.decode? v.value

/-- Give a variable a value, unless it has a text already. -/
def define (environment : List Settings.Variable) (name value : List Char) :
    List Settings.Variable :=
  if (lookup? environment name).isSome then environment
  else
    environment.filter (·.name ≠ String.ofList name) ++
      [{ name := String.ofList name, value := Text.Utf8.encode value }]

/-! ### Lines -/

/-- The lines of a file, each with the line break that ends it. -/
def linesOf : List UInt8 → List (List UInt8)
  | [] => []
  | b :: rest =>
    if b = 0x0A then [b] :: linesOf rest
    else
      match linesOf rest with
      | line :: lines => (b :: line) :: lines
      | [] => [[b]]

/-- Where the end of a line would be: behind something complete, behind a blank, behind a
backslash, inside quotes of a kind, behind a backslash there, or inside a comment. -/
inductive Ending where
  | complete
  | blank
  | escaped
  | quoted (mark : Char)
  | quotedEscaped (mark : Char)
  | comment
  deriving DecidableEq, Repr

/-- The ending behind one more character. -/
def Ending.step : Ending → Char → Ending
  | .comment, _ => .comment
  | .escaped, _ => .complete
  | .quoted mark, c =>
    if c = '\\' then .quotedEscaped mark else if c = mark then .complete else .quoted mark
  | .quotedEscaped mark, _ => .quoted mark
  | ending, c =>
    if c = '#' ∧ ending = .blank then .comment
    else if c = '\\' then .escaped
    else if c = '"' ∨ c = '\'' then .quoted c
    else if ending = .complete ∧ Text.isBlank c ∧ c ≠ '\n' ∧ c ≠ '\r' then .blank
    else .complete

/-- The characters before a comment, and the ending. -/
def scan (ending : Ending) : List Char → List Char × Ending
  | [] => ([], ending)
  | c :: rest =>
    match ending.step c with
    | .comment => ([], .comment)
    | next =>
      let (before, last) := scan next rest
      (c :: before, last)

/-- The logical lines of a file, of which one may stand in several lines. `before` is what
is read of the present one. What follows a line that is no text is left out, and so is a last
line that is not complete. -/
def logicalLines (before : List Char) (ending : Ending) :
    List (List UInt8) → List (List Char)
  | [] => []
  | bytes :: rest =>
    match Text.Utf8.decode? bytes with
    | none => []
    | some line =>
      if ((before ++ line).dropWhile Text.isBlank).head? = some '#' then
        logicalLines [] .complete rest
      else
        let (kept, ending) := scan ending line
        if ending = .complete ∨ ending = .comment then
          (before ++ kept) :: logicalLines [] .complete rest
        else logicalLines (before ++ kept) ending rest

/-! ### Values -/

/-- What the next character of a value belongs to. -/
inductive Mode where
  | plain
  | escaped
  | strong
  | behindValue
  | reference
  | braced
  deriving DecidableEq, Repr

/-- A value as far as it is read: the mode, whether it stands inside double quotes, the name of
the variable that is referred to, and the value. -/
structure Progress where
  mode : Mode
  inQuotes : Bool
  name : List Char
  value : List Char

/-- Put the value of the variable that is referred to in place of its name. -/
def Progress.resolve (p : Progress) (environment : List Settings.Variable) : Progress :=
  { p with value := p.value ++ (lookup? environment p.name).getD [], name := [] }

/-- Add a character to the value. -/
def Progress.push (p : Progress) (c : Char) : Progress :=
  { p with value := p.value ++ [c] }

/-- Read a character of a value outside of any reference. -/
def Progress.plainStep (p : Progress) (c : Char) : Progress :=
  if c = '$' then { p with mode := .reference }
  else if c = '"' then { p with inQuotes := !p.inQuotes }
  else if c = '\\' then { p with mode := .escaped }
  else if p.inQuotes then p.push c
  else if c = '\'' then { p with mode := .strong }
  else if c = ' ' ∨ c = '\t' then { p with mode := .behindValue }
  else p.push c

/-- Read a character behind the dollar sign of a reference. Whatever ends the reference is
taken as it is, but for another dollar sign. -/
def Progress.referenceStep (p : Progress) (environment : List Settings.Variable) (c : Char) :
    Progress :=
  if Text.isLetterOrDigit c then { p with name := p.name ++ [c] }
  else if c = '\x7b' ∧ p.name.isEmpty then { p with mode := .braced }
  else if c = '$' then p.resolve environment
  else { (p.resolve environment).push c with mode := .plain }

/-- The character that an escaped one stands for. -/
def unescape? (c : Char) : Option Char :=
  if c ∈ ['\\', '\'', '"', '$', ' '] then some c else if c = 'n' then some '\n' else none

/-- Read the rest of a value. A comment may follow it behind a blank. -/
def readValue (environment : List Settings.Variable) (p : Progress) :
    List Char → Option (List Char)
  | [] =>
    if p.mode = .braced ∨ p.mode = .strong ∨ p.inQuotes then none
    else some (p.resolve environment).value
  | c :: rest =>
    match p.mode with
    | .plain => readValue environment (p.plainStep c) rest
    | .escaped =>
      (unescape? c).bind fun c => readValue environment { p.push c with mode := .plain } rest
    | .strong =>
      readValue environment (if c = '\'' then { p with mode := .plain } else p.push c) rest
    | .behindValue =>
      if c = '#' then some p.value
      else if c = ' ' ∨ c = '\t' then readValue environment p rest
      else none
    | .reference => readValue environment (p.referenceStep environment c) rest
    | .braced =>
      readValue environment
        (if c = '\x7d' then { p.resolve environment with mode := .plain }
        else { p with name := p.name ++ [c] }) rest

/-! ### Assignments -/

/-- The name at the beginning of a text, and the text behind it and the blanks there. -/
def readName (cs : List Char) : Option (List Char × List Char) :=
  match cs with
  | c :: _ =>
    if c.isAlpha ∨ c = '_' then
      let inName (c : Char) : Bool := c.isAlphanum || c = '_' || c = '.'
      some (cs.takeWhile inName, (cs.dropWhile inName).dropWhile Text.isBlank)
    else none
  | [] => none

/-- The text behind an equals sign. -/
def behindEquals? : List Char → Option (List Char)
  | '=' :: rest => some rest
  | _ => none

/-- The name that a line gives a value, and the text of the value. The word `export` may stand
before the name. -/
def readAssignment (line : List Char) : Option (List Char × List Char) := do
  let (name, rest) ← readName line
  match behindEquals? rest with
  | some value => return (name, value)
  | none =>
    if name = "export".toList then
      let (name, rest) ← readName rest
      return (name, ← behindEquals? rest)
    else none

/-- Whether there is nothing in a text, or a comment. -/
def isVoid (cs : List Char) : Bool :=
  cs.isEmpty || cs.head? = some '#'

/-- The variables after a logical line; `none` if it is not well formed. -/
def applyLine (environment : List Settings.Variable) (line : List Char) :
    Option (List Settings.Variable) := do
  let line := Text.trimChars line
  if isVoid line then return environment
  let (name, text) ← readAssignment line
  let text := text.dropWhile Text.isBlank
  let start : Progress := { mode := .plain, inQuotes := false, name := [], value := [] }
  let value ← if isVoid text then some [] else readValue environment start text
  return define environment name value

/-- The variables after logical lines, up to the first that is not well formed. -/
def applyLines (environment : List Settings.Variable) :
    List (List Char) → List Settings.Variable
  | [] => environment
  | line :: rest =>
    match applyLine environment line with
    | some environment => applyLines environment rest
    | none => environment

/-- The variables after a file, which may begin with a mark of the order of its bytes. -/
def apply (environment : List Settings.Variable) (bytes : List UInt8) : List Settings.Variable :=
  let bytes := match bytes with
    | 0xEF :: 0xBB :: 0xBF :: rest => rest
    | bytes => bytes
  applyLines environment (logicalLines [] .complete (linesOf bytes))

end FeedRelay.CommandLine.EnvironmentFile
