import FeedRelay.Decimal.Literal
import FeedRelay.Text.Hex
import FeedRelay.Text.Split

/-!
# IPv4 addresses

An address is a number of 32 bits, written as its four bytes in decimal. Beside the strict reader
for that form alone there are two lenient ones, of web addresses and of hosts to look up, where a
part may be octal or hexadecimal and the last part fills all bytes that are left.
-/

namespace FeedRelay.Address

/-- An IPv4 address. -/
structure Ipv4 where
  value : Nat
  deriving DecidableEq, Repr

namespace Ipv4

/-- The address of four bytes. -/
def ofBytes (a b c d : Nat) : Ipv4 :=
  ⟨((a * 256 + b) * 256 + c) * 256 + d⟩

/-- The four bytes of an address, the first one first. -/
def bytes (ip : Ipv4) : List Nat :=
  [ip.value / 16777216 % 256, ip.value / 65536 % 256, ip.value / 256 % 256, ip.value % 256]

/-- The four bytes in decimal. -/
def render (ip : Ipv4) : List Char :=
  List.intercalate ['.'] (ip.bytes.map fun b => Nat.toDigits 10 b)

/-- A byte in decimal, without leading zeros. -/
def byte? (cs : List Char) : Option Nat :=
  if 1 < cs.length ∧ cs.head? = some '0' then none
  else if 3 < cs.length then none
  else (Decimal.Literal.natural? cs).filter (· < 256)

/-- Read an address in its strict form. -/
def ofChars? (cs : List Char) : Option Ipv4 :=
  match (Text.split '.' cs).map byte? with
  | [some a, some b, some c, some d] => some (ofBytes a b c d)
  | _ => none

/-- The value of digits in a base. -/
def digitsIn? (base : Nat) (cs : List Char) : Option Nat :=
  cs.foldlM (fun n c => ((Text.Hex.value? c).filter (· < base)).map (base * n + ·)) 0

/-- The value of a part in lenient form: `0x` announces hexadecimal digits, which may be
missing, and a leading zero octal ones. -/
def part? : List Char → Option Nat
  | [] => none
  | '0' :: 'x' :: digits => digitsIn? 16 digits
  | '0' :: 'X' :: digits => digitsIn? 16 digits
  | '0' :: c :: digits => digitsIn? 8 (c :: digits)
  | digits => digitsIn? 10 digits

/-- The parts of a dotted text; one empty part at its end does not count. -/
def parts (cs : List Char) : List (List Char) :=
  match (Text.split '.' cs).reverse with
  | [] :: rest => rest.reverse
  | all => all.reverse

/-- Whether the last part of a dotted text is a number, so that the text has to be an
address. -/
def looksNumeric (cs : List Char) : Bool :=
  match (parts cs).getLast? with
  | some last => (!last.isEmpty && last.all Char.isDigit) || (part? last).isSome
  | none => false

/-- The address of numbers, the last of which fills all bytes that are left. -/
def ofNumbers? (numbers : List Nat) : Option Ipv4 := do
  let last ← numbers.getLast?
  let leading := numbers.dropLast
  if 3 < leading.length ∨ leading.any (255 < ·) ∨ Nat.pow 256 (4 - leading.length) ≤ last then none
  else
    let padded := leading ++ List.replicate (4 - leading.length) 0
    return ⟨padded.foldl (fun n b => 256 * n + b) 0 + last⟩

/-- Read an address in its lenient form. -/
def lenient? (cs : List Char) : Option Ipv4 :=
  ((parts cs).mapM part?).bind ofNumbers?

/-- Whether a part only announces hexadecimal digits. -/
def isBareHex (part : List Char) : Bool :=
  part = ['0', 'x'] || part = ['0', 'X']

/-- Read an address as a host to look up: the lenient form, in which no part is without digits. -/
def host? (cs : List Char) : Option Ipv4 :=
  let all := Text.split '.' cs
  if all.any isBareHex then none else (all.mapM part?).bind ofNumbers?

end Ipv4

end FeedRelay.Address
