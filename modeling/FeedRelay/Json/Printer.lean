import FeedRelay.Decimal.Layout
import FeedRelay.Json.Value
import FeedRelay.Text.Hex

/-!
# Writing JSON

The compact text of a value: no blanks, members in the order of their keys, and in strings
only quotes, backslashes and controls escaped.
-/

namespace FeedRelay.Json

/-- A number is positional from a hundred-thousandth to ten to the fifteenth, and a whole one
keeps a zero behind its point. -/
def realLayout : Decimal.Layout where
  positional := some (-5, 16)
  wholeEnd := ['.', '0']
  nan := ['n', 'u', 'l', 'l']
  infinity := ['n', 'u', 'l', 'l']

/-- A character as it stands in a string. -/
def escapeChar (c : Char) : List Char :=
  match c with
  | '"' => ['\\', '"']
  | '\\' => ['\\', '\\']
  | '\x08' => ['\\', 'b']
  | '\x0c' => ['\\', 'f']
  | '\n' => ['\\', 'n']
  | '\r' => ['\\', 'r']
  | '\t' => ['\\', 't']
  | c =>
    if c.toNat < 0x20 then
      ['\\', 'u', '0', '0', Text.Hex.lower (c.toNat / 16), Text.Hex.lower (c.toNat % 16)]
    else [c]

/-- The characters of a string, in quotes. -/
def renderString (cs : List Char) : List Char :=
  '"' :: cs.flatMap escapeChar ++ ['"']

/-- A whole number in decimal digits. -/
def renderInteger (i : Int) : List Char :=
  if i < 0 then '-' :: Decimal.digitsOf i.natAbs else Decimal.digitsOf i.natAbs

mutual

/-- The compact text of a value. -/
def Value.render : Value → List Char
  | .null => ['n', 'u', 'l', 'l']
  | .bool true => ['t', 'r', 'u', 'e']
  | .bool false => ['f', 'a', 'l', 's', 'e']
  | .integer i => renderInteger i
  | .real x => realLayout.render x
  | .string s => renderString s.toList
  | .array items => '[' :: renderItems items ++ [']']
  | .object members => '\x7b' :: renderMembers members ++ ['\x7d']

/-- The texts of the items of an array, separated by commas. -/
def renderItems : List Value → List Char
  | [] => []
  | [item] => item.render
  | item :: rest => item.render ++ ',' :: renderItems rest

/-- The texts of the members of an object, separated by commas. -/
def renderMembers : List (String × Value) → List Char
  | [] => []
  | [(key, item)] => renderString key.toList ++ ':' :: item.render
  | (key, item) :: rest =>
    renderString key.toList ++ ':' :: (item.render ++ ',' :: renderMembers rest)

end

/-- The compact text of a value. -/
def Value.toText (value : Value) : String :=
  String.ofList value.render

end FeedRelay.Json
