import FeedRelay.Text.Hex

/-!
# TOML strings

The four kinds of strings: basic ones with escapes and literal ones without, each on one line
or, between triple quotes, on several. A reader is given what follows the opening quotes and
gives the characters of the string and what follows its closing quotes.
-/

namespace FeedRelay.Toml

/-- Whether a character may stand for itself: a tab, but no other control. -/
def isPlain (c : Char) : Bool :=
  c = '\t' || (0x20 ≤ c.toNat && c.toNat ≠ 0x7F)

/-- Put a character before those that a reader gave. -/
def push (c : Option Char) (rest : Option (List Char × List Char)) :
    Option (List Char × List Char) :=
  match c, rest with
  | some c, some (cs, rest) => some (c :: cs, rest)
  | _, _ => none

/-- The character of an escape with a letter. -/
def letterEscape? : Char → Option Char
  | 'b' => some '\x08'
  | 't' => some '\t'
  | 'n' => some '\n'
  | 'f' => some '\x0c'
  | 'r' => some '\r'
  | 'e' => some '\x1b'
  | '"' => some '"'
  | '\\' => some '\\'
  | _ => none

/-- The character whose code point is given in hexadecimal digits. -/
def codePoint? (digits : List Char) : Option Char := do
  let n ← digits.foldlM (fun n d => (Text.Hex.value? d).map (16 * n + ·)) 0
  if n.isValidChar then some (Char.ofNat n) else none

/-- The rest of a basic string. -/
def basic : List Char → Option (List Char × List Char)
  | [] => none
  | '"' :: rest => some ([], rest)
  | '\\' :: 'u' :: a :: b :: c :: d :: rest => push (codePoint? [a, b, c, d]) (basic rest)
  | '\\' :: 'U' :: a :: b :: c :: d :: e :: f :: g :: h :: rest =>
    push (codePoint? [a, b, c, d, e, f, g, h]) (basic rest)
  | '\\' :: 'x' :: a :: b :: rest => push (codePoint? [a, b]) (basic rest)
  | '\\' :: c :: rest => push (letterEscape? c) (basic rest)
  | c :: rest => if isPlain c then push (some c) (basic rest) else none

/-- The rest of a literal string. -/
def literal : List Char → Option (List Char × List Char)
  | [] => none
  | c :: rest =>
    if c = '\'' then some ([], rest) else if isPlain c then push (some c) (literal rest) else none

/-- Whether a line has nothing but blanks left. -/
def endsLine : List Char → Bool
  | ' ' :: rest => endsLine rest
  | '\t' :: rest => endsLine rest
  | '\n' :: _ => true
  | '\r' :: '\n' :: _ => true
  | _ => false

/-- Up to two quotes at the end of a string of several lines belong to the string. -/
def closing (quote : Char) (text : List Char) : List Char × List Char :=
  let extra := (text.takeWhile (· = quote)).take 2
  (extra, text.drop extra.length)

/-- The rest of a basic string of several lines. A backslash at the end of a line hides all
blanks and line ends up to the next other character, which is what `skipping` says. -/
def longBasic (skipping : Bool) : List Char → Option (List Char × List Char)
  | [] => none
  | '\r' :: '\n' :: rest =>
    if skipping then longBasic true rest else push (some '\n') (longBasic false rest)
  | '"' :: '"' :: '"' :: rest => some (closing '"' rest)
  | '\\' :: 'u' :: a :: b :: c :: d :: rest =>
    push (codePoint? [a, b, c, d]) (longBasic false rest)
  | '\\' :: 'U' :: a :: b :: c :: d :: e :: f :: g :: h :: rest =>
    push (codePoint? [a, b, c, d, e, f, g, h]) (longBasic false rest)
  | '\\' :: 'x' :: a :: b :: rest => push (codePoint? [a, b]) (longBasic false rest)
  | '\\' :: c :: rest =>
    if endsLine (c :: rest) then longBasic true (c :: rest)
    else push (letterEscape? c) (longBasic false rest)
  | c :: rest =>
    if skipping && (c = ' ' || c = '\t' || c = '\n') then longBasic true rest
    else if isPlain c || c = '\n' then push (some c) (longBasic false rest)
    else none

/-- The rest of a literal string of several lines. -/
def longLiteral : List Char → Option (List Char × List Char)
  | [] => none
  | '\r' :: '\n' :: rest => push (some '\n') (longLiteral rest)
  | '\'' :: '\'' :: '\'' :: rest => some (closing '\'' rest)
  | c :: rest => if isPlain c || c = '\n' then push (some c) (longLiteral rest) else none

/-- Drop a line end right behind the opening quotes of a string of several lines. -/
def dropFirstLineEnd : List Char → List Char
  | '\n' :: rest => rest
  | '\r' :: '\n' :: rest => rest
  | text => text

/-- A string of any kind, from its opening quotes on. -/
def quotedText : List Char → Option (List Char × List Char)
  | '"' :: '"' :: '"' :: rest => longBasic false (dropFirstLineEnd rest)
  | '"' :: rest => basic rest
  | '\'' :: '\'' :: '\'' :: rest => longLiteral (dropFirstLineEnd rest)
  | '\'' :: rest => literal rest
  | _ => none

end FeedRelay.Toml
