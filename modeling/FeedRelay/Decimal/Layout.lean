import FeedRelay.Decimal.Shortest

/-!
# Laying out a number

The digits of a number are its shortest ones; a layout says where the decimal point goes,
when an exponent is written instead, and what the special values are called.
-/

namespace FeedRelay.Decimal

/-- How a number is written. With the decimal point at position `p` of its digits, a number
is written positionally if `low < p ≤ high`, and with an exponent otherwise. -/
structure Layout where
  /-- The bounds of positional writing; `none` writes every number positionally. -/
  positional : Option (Int × Int)
  /-- What follows a whole number. -/
  wholeEnd : List Char
  /-- The name of what is no number. -/
  nan : List Char
  /-- The name of infinity, without its sign. -/
  infinity : List Char

/-- The digits of a natural number. -/
def digitsOf (n : Nat) : List Char :=
  Nat.toDigits 10 n

/-- Digits with the decimal point at a position, which may lie outside of them. -/
def placePoint (wholeEnd : List Char) (digits : List Char) (point : Int) : List Char :=
  if point ≤ 0 then '0' :: '.' :: List.replicate (-point).toNat '0' ++ digits
  else if (digits.length : Int) ≤ point then
    digits ++ List.replicate (point - digits.length).toNat '0' ++ wholeEnd
  else digits.take point.toNat ++ '.' :: digits.drop point.toNat

/-- Digits in scientific notation: one before the point, and a signed exponent. -/
def scientific (digits : List Char) (point : Int) : List Char :=
  let fraction := digits.drop 1
  digits.take 1 ++ (if fraction.isEmpty then [] else '.' :: fraction) ++
    'e' :: (if point ≤ 0 then '-' else '+') :: digitsOf (point - 1).natAbs

/-- The magnitude of a positive number in a layout. -/
def Layout.magnitude (layout : Layout) (x : Magnitude) : List Char :=
  let digits := digitsOf x.digits
  let point := x.exponent + digits.length
  match layout.positional with
  | none => placePoint layout.wholeEnd digits point
  | some (low, high) =>
    if low < point ∧ point ≤ high then placePoint layout.wholeEnd digits point
    else scientific digits point

/-- A number in a layout. -/
def Layout.render (layout : Layout) : Binary64 → List Char
  | .nan => layout.nan
  | .infinite negative => (if negative then ['-'] else []) ++ layout.infinity
  | .finite negative m e =>
    (if negative then ['-'] else []) ++
      if m = 0 then '0' :: layout.wholeEnd else layout.magnitude (shortest m e)

/-- Plain numbers: always positional, whole ones without a point. -/
def Layout.plain : Layout where
  positional := none
  wholeEnd := []
  nan := ['N', 'a', 'N']
  infinity := ['i', 'n', 'f']

end FeedRelay.Decimal
