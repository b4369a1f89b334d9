import FeedRelay.Decimal.Binary64

/-!
# Reading a decimal number

The text of a number: an optional sign, digits with an optional point among them, and an
optional exponent, or one of the names of infinity and of what is no number. There is at
least one digit, and an exponent has at least one as well. The value is rounded once.
-/

namespace FeedRelay.Decimal.Literal

/-- The value of a list of decimal digits. -/
def value (digits : List Char) : Nat :=
  digits.foldl (fun n c => 10 * n + (c.toNat - 48)) 0

/-- A sign, if there is one, and what follows it. -/
def sign : List Char → Bool × List Char
  | '-' :: rest => (true, rest)
  | '+' :: rest => (false, rest)
  | rest => (false, rest)

/-- The value of a nonempty list of decimal digits. -/
def natural? (cs : List Char) : Option Nat :=
  if cs.isEmpty || !cs.all Char.isDigit then none else some (value cs)

/-- The value of an optional plus sign and digits, at most `limit`. -/
def bounded? (limit : Nat) (cs : List Char) : Option Nat :=
  let digits := match cs with
    | '+' :: rest => rest
    | rest => rest
  (natural? digits).filter (· ≤ limit)

/-- The value of an optional sign and digits, from `low` to `high`. -/
def integer? (low high : Int) (cs : List Char) : Option Int :=
  let (negative, digits) := sign cs
  ((natural? digits).map fun (n : Nat) => if negative then -(n : Int) else n).filter
    fun i => low ≤ i && i ≤ high

/-- The power of ten that an exponent part asks for; no part asks for none. -/
def exponent? : List Char → Option Int
  | [] => some 0
  | c :: rest =>
    if c = 'e' ∨ c = 'E' then
      let (negative, digits) := sign rest
      (natural? digits).map fun (n : Nat) => if negative then -(n : Int) else n
    else none

/-- A number without its sign, given as digits, point and exponent. -/
def unsigned? (negative : Bool) (cs : List Char) : Option Binary64 :=
  let whole := cs.takeWhile Char.isDigit
  let rest := cs.dropWhile Char.isDigit
  let (fraction, rest) := match rest with
    | '.' :: rest => (rest.takeWhile Char.isDigit, rest.dropWhile Char.isDigit)
    | rest => ([], rest)
  let digits := whole ++ fraction
  if digits.isEmpty then none
  else (exponent? rest).map fun e =>
    Binary64.ofDecimal negative (value digits) (e - fraction.length)

/-- A number in decimal notation, or a special value by name in any case. -/
def float? (cs : List Char) : Option Binary64 :=
  let (negative, body) := sign cs
  match String.ofList (body.map Char.toLower) with
  | "inf" | "infinity" => some (.infinite negative)
  | "nan" => some .nan
  | _ => unsigned? negative body

end FeedRelay.Decimal.Literal
