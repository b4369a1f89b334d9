import FeedRelay.Text.Hex
import FeedRelay.Text.Utf8

/-!
# Percent-encoding

A character that a place does not admit is written as the bytes of its UTF-8 form, each as
a percent sign and two hexadecimal digits. Which characters are admitted is a parameter.
-/

namespace FeedRelay.Text.Percent

/-- A byte as a percent sign and two digits. -/
def escape (b : UInt8) : List Char :=
  '%' :: Hex.ofByte b

/-- One character, escaped unless it is in ASCII and `keep` admits it. -/
def encodeChar (keep : Char → Bool) (c : Char) : List Char :=
  if c.toNat < 0x80 && keep c then [c] else (Utf8.encodeChar c).flatMap escape

/-- A list of characters, each escaped unless it is in ASCII and `keep` admits it. -/
def encode (keep : Char → Bool) (cs : List Char) : List Char :=
  cs.flatMap (encodeChar keep)

/-- The bytes that a text stands for; a percent sign without two digits stands for itself. -/
def decode : List Char → List UInt8
  | [] => []
  | '%' :: a :: b :: rest =>
    match Hex.value? a, Hex.value? b with
    | some x, some y => UInt8.ofNat (16 * x + y) :: decode rest
    | _, _ => 0x25 :: decode (a :: b :: rest)
  | c :: rest => Utf8.encodeChar c ++ decode rest

/-- The controls of ASCII. -/
def isControl (c : Char) : Bool :=
  c.toNat < 0x20 || c.toNat = 0x7F

end FeedRelay.Text.Percent
