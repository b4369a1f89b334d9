import FeedRelay.Decimal.Binary64

/-!
# The fewest digits that read back

Of the decimals that round to a given binary64 number, the ones with the fewest digits, and
of those the one nearest to the number. A grid of decimals with a point in the interval of
numbers that round to the given one also has one of the two neighbours of the number in it,
so only these are looked at, grid by grid.
-/

namespace FeedRelay.Decimal

/-- A decimal magnitude `digits * 10 ^ exponent`. -/
structure Magnitude where
  digits : Nat
  exponent : Int
  deriving DecidableEq, Repr

/-- Whether `n₁ / d₁ < n₂ / d₂`. -/
private def ratioLt (a b : Nat × Nat) : Bool :=
  a.1 * b.2 < b.1 * a.2

/-- Whether `n₁ / d₁ ≤ n₂ / d₂`. -/
private def ratioLe (a b : Nat × Nat) : Bool :=
  a.1 * b.2 ≤ b.1 * a.2

/-- A magnitude as a ratio. -/
def Magnitude.ratio (x : Magnitude) : Nat × Nat :=
  if x.exponent < 0 then (x.digits, Nat.pow 10 (-x.exponent).toNat)
  else (x.digits * Nat.pow 10 x.exponent.toNat, 1)

/-- The least `t` for which the ratio `n / d` is below `10 ^ t`. -/
def decimalPoint (n d : Nat) : Int :=
  let guess : Int := ((Nat.log2 n : Int) - Nat.log2 d) * 30103 / 100000 - 1
  let candidates := (List.range 5).map fun (k : Nat) => guess + (k : Int)
  (candidates.find? fun t => ratioLt (n, d) (Magnitude.ratio ⟨1, t⟩)).getD (guess + 5)

/-- The numbers that round to a finite positive number: the ends of their interval, which
belong to it exactly if the mantissa is even. -/
structure Interval where
  low : Nat × Nat
  high : Nat × Nat
  closed : Bool

/-- The interval of a mantissa and a power of two. The gap below a power of two is half as
wide as the one above it. -/
def Interval.of (mantissa : Nat) (exponent : Int) : Interval :=
  let below := if mantissa = Nat.pow 2 52 ∧ Binary64.minExponent < exponent then 1 else 2
  { low := Binary64.ratio (4 * mantissa - below) (exponent - 2)
    high := Binary64.ratio (4 * mantissa + 2) (exponent - 2)
    closed := mantissa % 2 == 0 }

/-- Whether a ratio rounds to the number of the interval. -/
def Interval.contains (i : Interval) (x : Nat × Nat) : Bool :=
  if i.closed then ratioLe i.low x && ratioLe x i.high
  else ratioLt i.low x && ratioLt x i.high

/-- The neighbours of `n / d` among the multiples of `10 ^ exponent` that lie in the interval,
the nearer one first. -/
def neighbours (i : Interval) (n d : Nat) (exponent : Int) : List Magnitude :=
  let (sn, sd) :=
    if exponent < 0 then (n * Nat.pow 10 (-exponent).toNat, d)
    else (n, d * Nat.pow 10 exponent.toNat)
  let q := sn / sd
  let r := sn % sd
  let nearFirst := if 2 * r < sd || (2 * r == sd && q % 2 == 0) then [q, q + 1] else [q + 1, q]
  (nearFirst.map fun c => ⟨c, exponent⟩).filter fun x => i.contains x.ratio

/-- Drop the trailing zeros of a magnitude; `fuel` bounds how many are dropped. -/
def Magnitude.strip (x : Magnitude) : (fuel : Nat) → Magnitude
  | 0 => x
  | fuel + 1 =>
    if x.digits % 10 = 0 ∧ x.digits ≠ 0 then
      Magnitude.strip ⟨x.digits / 10, x.exponent + 1⟩ fuel
    else x

/-- The shortest decimal that reads back as the positive number `mantissa * 2 ^ exponent`.
Seventeen digits always suffice. -/
def shortest (mantissa : Nat) (exponent : Int) : Magnitude :=
  let i := Interval.of mantissa exponent
  let (n, d) := Binary64.ratio mantissa exponent
  let point := decimalPoint n d
  let grids := (List.range 17).map fun (k : Nat) => neighbours i n d (point - 1 - (k : Int))
  match grids.find? (!·.isEmpty) with
  | some (x :: _) => x.strip 20
  | _ => ⟨mantissa, 0⟩

end FeedRelay.Decimal
