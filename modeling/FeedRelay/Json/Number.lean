import FeedRelay.Json.Fault
import FeedRelay.Json.Value

/-!
# JSON numbers

Digits are gathered into a significand of 64 bits. A digit that no longer fits is dropped,
and counts as a power of ten if it stands before the point. A number without point and
exponent whose digits all fit is exact; every other one is the significand, rounded, times
or divided by powers of ten, each step rounded.
-/

namespace FeedRelay.Json

open Decimal (Binary64)

/-- A reader of the beginning of a text. -/
abbrev Reader (α : Type) := List Char → Except Fault (α × List Char)

namespace Number

/-- The value of a digit. -/
private def digitValue (c : Char) : Nat :=
  c.toNat - 48

/-- The bound of significands. -/
def significandLimit : Nat := Nat.pow 2 64

/-- Append digits to a significand as long as it fits: the significand, how many digits it
took, and the rest. -/
def gather (significand : Nat) : List Char → Nat × Nat × List Char
  | [] => (significand, 0, [])
  | c :: rest =>
    if c.isDigit && 10 * significand + digitValue c < significandLimit then
      let (s, taken, rest) := gather (10 * significand + digitValue c) rest
      (s, taken + 1, rest)
    else (significand, 0, c :: rest)

/-- Whether a text goes on with a digit. -/
def startsWithDigit : List Char → Bool
  | c :: _ => c.isDigit
  | [] => false

/-- Ten to a power of at most 308, rounded. -/
def powerOfTen (n : Nat) : Binary64 :=
  Binary64.ofRatio false (Nat.pow 10 n) 1

/-- Bring a magnitude to its power of ten; `none` if it grows out of range. Two divisions by
the largest power make every significand zero, so `fuel` need not exceed three. -/
def scale (x : Binary64) (exponent : Int) : (fuel : Nat) → Option Binary64
  | 0 => some x
  | fuel + 1 =>
    if exponent.natAbs ≤ 308 then
      if 0 ≤ exponent then
        let y := x.mul (powerOfTen exponent.natAbs)
        if y.isInfinite then none else some y
      else some (x.div (powerOfTen exponent.natAbs))
    else if x.isZero then some x
    else if 0 ≤ exponent then none
    else scale (x.div (powerOfTen 308)) (exponent + 308) fuel

/-- The number with a sign, a significand and a power of ten. -/
def assemble (negative : Bool) (significand : Nat) (exponent : Int) : Reader Value :=
  fun rest =>
    match scale (Binary64.ofNat significand) exponent 4 with
    | some x => .ok (.real (if negative then x.neg else x), rest)
    | none => .error (.before .numberOutOfRange rest)

/-- The bound of exponents. -/
def exponentLimit : Nat := Nat.pow 2 31

/-- The digits of an exponent; `none`, right behind the digit that passes the bound. -/
def exponentDigits (exponent : Nat) : List Char → Option Nat × List Char
  | [] => (some exponent, [])
  | c :: rest =>
    if c.isDigit then
      let next := 10 * exponent + digitValue c
      if next < exponentLimit then exponentDigits next rest else (none, rest)
    else (some exponent, c :: rest)

/-- The number whose exponent part begins behind its letter. -/
def withExponent (negative : Bool) (significand : Nat) (exponent : Int) : Reader Value :=
  fun text =>
    let (minus, rest) : Bool × List Char := match text with
      | '+' :: rest => (false, rest)
      | '-' :: rest => (true, rest)
      | rest => (false, rest)
    match rest with
    | [] => .error (.before .endOfValue [])
    | c :: after =>
      if !c.isDigit then .error (.at .invalidNumber (c :: after))
      else
        match exponentDigits 0 (c :: after) with
        | (some n, rest) =>
          assemble negative significand (if minus then exponent - n else exponent + n) rest
        | (none, rest) =>
          if significand ≠ 0 ∧ !minus then .error (.before .numberOutOfRange rest)
          else .ok (.real (Binary64.zero negative), rest.dropWhile Char.isDigit)

/-- The number that goes on with an exponent part or ends. -/
def afterFraction (negative : Bool) (significand : Nat) (exponent : Int) : Reader Value
  | 'e' :: rest => withExponent negative significand exponent rest
  | 'E' :: rest => withExponent negative significand exponent rest
  | rest => assemble negative significand exponent rest

/-- The number whose fraction begins behind its point. -/
def withFraction (negative : Bool) (significand : Nat) (exponent : Int) : Reader Value :=
  fun text =>
    let (s, taken, rest) := gather significand text
    if startsWithDigit rest then
      afterFraction negative s (exponent - taken) (rest.dropWhile Char.isDigit)
    else if taken = 0 then
      .error (.at (if rest.isEmpty then .endOfValue else .invalidNumber) rest)
    else afterFraction negative s (exponent - taken) rest

/-- The number whose digits before the point are read, `dropped` of them not gathered. -/
def afterDigits (negative : Bool) (significand dropped : Nat) : Reader Value
  | '.' :: rest => withFraction negative significand dropped rest
  | 'e' :: rest => withExponent negative significand dropped rest
  | 'E' :: rest => withExponent negative significand dropped rest
  | rest =>
    if dropped ≠ 0 then assemble negative significand dropped rest
    else if !negative then .ok (.integer significand, rest)
    else if significand = 0 ∨ Nat.pow 2 63 < significand then
      .ok (.real (Binary64.ofNat significand).neg, rest)
    else .ok (.integer (-significand), rest)

/-- A number whose sign is read. A leading zero stands alone before the point. -/
def read (negative : Bool) : Reader Value
  | [] => .error (.before .endOfValue [])
  | '0' :: rest =>
    if startsWithDigit rest then .error (.at .invalidNumber rest)
    else afterDigits negative 0 0 rest
  | c :: rest =>
    if c.isDigit then
      let (s, _, rest) := gather 0 (c :: rest)
      let dropped := rest.takeWhile Char.isDigit
      afterDigits negative s dropped.length (rest.dropWhile Char.isDigit)
    else .error (.at .invalidNumber (c :: rest))

end Number

end FeedRelay.Json
