import FeedRelay.Toml.Scalar
import FeedRelay.Toml.Text

/-!
# Reading TOML

A document is a list of lines, each a header, a key with its item, or nothing but a comment.
Items may be nested up to a limit, and the recursion is on what remains of it.
-/

namespace FeedRelay.Toml

/-- Skip blanks. -/
def skipBlanks (text : List Char) : List Char :=
  text.dropWhile fun c => c = ' ' || c = '\t'

/-- Skip blanks, line ends and comments. -/
def skipLines (inComment : Bool) : List Char → Option (List Char)
  | [] => some []
  | '\n' :: rest => skipLines false rest
  | '\r' :: '\n' :: rest => skipLines false rest
  | c :: rest =>
    if inComment then if isPlain c then skipLines true rest else none
    else if c = ' ' || c = '\t' then skipLines false rest
    else if c = '#' then skipLines true rest
    else some (c :: rest)

/-- The characters of keys without quotes. -/
def isKeyChar (c : Char) : Bool :=
  c.isAlphanum || c = '-' || c = '_'

/-- One part of a key. -/
def keyPart (text : List Char) : Option (String × List Char) :=
  match text with
  | '"' :: rest => (basic rest).map fun (cs, rest) => (String.ofList cs, rest)
  | '\'' :: rest => (literal rest).map fun (cs, rest) => (String.ofList cs, rest)
  | _ =>
    let part := text.takeWhile isKeyChar
    if part.isEmpty then none else some (String.ofList part, text.dropWhile isKeyChar)

/-- The parts of a key, with dots between them. Each part is behind the dot before it, so `fuel`
need not exceed the length of the text. -/
def keyParts : (fuel : Nat) → List Char → Option (List String × List Char)
  | 0, _ => none
  | fuel + 1, text => do
    let (part, rest) ← keyPart (skipBlanks text)
    match skipBlanks rest with
    | '.' :: rest =>
      let (parts, rest) ← keyParts fuel rest
      return (part :: parts, rest)
    | rest => return ([part], rest)

/-- How many parts a key may have, and how many arrays and inline tables may be inside one
another. -/
def depthLimit : Nat := 80

/-- A key, with the blanks around it. -/
def key (text : List Char) : Option (List String × List Char) :=
  (keyParts (text.length + 1) text).filter fun (parts, _) => parts.length ≤ depthLimit

/-- A key and its item. -/
def pair (item : List Char → Option (Item × List Char)) (text : List Char) :
    Option ((List String × Item) × List Char) := do
  let (path, rest) ← key text
  let rest ← expect '=' rest
  let (value, rest) ← item (skipBlanks rest)
  return ((path, value), rest)

/-- A key and its item in an inline table, on as many lines as one likes. -/
def inlinePair (item : List Char → Option (Item × List Char)) (text : List Char) :
    Option ((List String × Item) × List Char) := do
  let (path, rest) ← key text
  let rest ← expect '=' (← skipLines false rest)
  let (value, rest) ← item (← skipLines false rest)
  return ((path, value), rest)

/-- The items of an array behind its opening bracket, with commas between them and perhaps one
at the end. -/
def arrayItems (item : List Char → Option (Item × List Char)) : (fuel : Nat) → List Char →
    Option (List Item × List Char)
  | 0, _ => none
  | fuel + 1, text => do
    match ← skipLines false text with
    | ']' :: rest => return ([], rest)
    | text =>
      let (first, rest) ← item text
      match ← skipLines false rest with
      | ']' :: rest => return ([first], rest)
      | ',' :: rest =>
        let (others, rest) ← arrayItems item fuel rest
        return (first :: others, rest)
      | _ => none

/-- The members of an inline table behind its opening brace, with commas between them and
perhaps one at the end. -/
def inlineMembers (item : List Char → Option (Item × List Char)) :
    (fuel : Nat) → Members → List Char → Option (Members × List Char)
  | 0, _, _ => none
  | fuel + 1, members, text => do
    match ← skipLines false text with
    | '\x7d' :: rest => return (members, rest)
    | text =>
      let ((path, value), rest) ← inlinePair item text
      let members ← members.define value path
      match ← skipLines false rest with
      | '\x7d' :: rest => return (members, rest)
      | ',' :: rest => inlineMembers item fuel members rest
      | _ => none

/-- A string, or an item without quotes. -/
def flatItem (text : List Char) : Option (Item × List Char) :=
  match text with
  | '"' :: _ => (quotedText text).map fun (cs, rest) => (.text (String.ofList cs), rest)
  | '\'' :: _ => (quotedText text).map fun (cs, rest) => (.text (String.ofList cs), rest)
  | _ =>
    let (scalar, rest) := scalarText text
    (scalar? scalar).map fun value => (value, rest)

/-- An item with at most `depth` arrays and inline tables inside one another. -/
def item : (depth : Nat) → List Char → Option (Item × List Char)
  | depth + 1, '[' :: rest =>
    (arrayItems (item depth) (rest.length + 1) rest).map fun (list, rest) => (.array list, rest)
  | depth + 1, '\x7b' :: rest =>
    (inlineMembers (item depth) (rest.length + 1) [] rest).map fun (members, rest) =>
      (.table .inline members, rest)
  | _, text => flatItem text

/-- The end of a line: blanks and perhaps a comment. -/
def lineEnd (text : List Char) : Option (List Char) :=
  match skipBlanks text with
  | [] => some []
  | '\n' :: rest => some rest
  | '\r' :: '\n' :: rest => some rest
  | '#' :: rest =>
    let (comment, rest) := cut (fun c => c = '\n' || c = '\r') rest
    if comment.all isPlain then
      match rest with
      | [] => some []
      | '\n' :: rest => some rest
      | '\r' :: '\n' :: rest => some rest
      | _ => none
    else none
  | _ => none

/-- One line of a document that is neither empty nor only a comment. -/
def line (doc : Document) : List Char → Option (Document × List Char)
  | '[' :: '[' :: rest => do
    let (path, rest) ← key rest
    let rest ← expect ']' (← expect ']' rest)
    return (← doc.openHeader true path, ← lineEnd rest)
  | '[' :: rest => do
    let (path, rest) ← key rest
    let rest ← expect ']' rest
    return (← doc.openHeader false path, ← lineEnd rest)
  | text => do
    let ((path, value), rest) ← pair (item depthLimit) text
    return (← doc.define path value, ← lineEnd rest)

/-- The lines of a document. Each of them has a character, so `fuel` need not exceed the length
of the text. -/
def lines : (fuel : Nat) → Document → List Char → Option Document
  | 0, _, _ => none
  | fuel + 1, doc, text => do
    match ← skipLines false text with
    | [] => return doc
    | text =>
      let (doc, rest) ← line doc text
      lines fuel doc rest

/-- A text without a mark of the order of its bytes. -/
def withoutMark : List Char → List Char
  | '\uFEFF' :: rest => rest
  | text => text

/-- The members of a document, if its text is well formed. -/
def parse? (text : List Char) : Option Members :=
  (lines (text.length + 1) .empty (withoutMark text)).map (·.members)

end FeedRelay.Toml
