/-!
# Labels in Punycode

A label of a domain name in ASCII alone: its ASCII characters, a hyphen, and digits that say
which other characters to insert, in increasing order, and where. Positions are written as
differences in a number system whose digits have weights that depend on their place, and on
a bias that follows the sizes seen so far.
-/

namespace FeedRelay.Url.Punycode

/-- Halve a difference down to the range of one digit, counting the steps. -/
def shrink (delta : Nat) : Nat :=
  if 455 < delta then 36 + shrink (delta / 35) else 36 * delta / (delta + 38)
termination_by delta
decreasing_by omega

/-- The bias after a difference, for a label that now has `count` characters. -/
def adapt (delta count : Nat) (isFirst : Bool) : Nat :=
  let delta := if isFirst then delta / 700 else delta / 2
  shrink (delta + delta / count)

/-- The threshold of a digit at a place: at least one and at most 26. -/
def threshold (place bias : Nat) : Nat :=
  max 1 (min 26 (place - bias))

/-- The character of a digit below 36. -/
def digit (d : Nat) : Char :=
  if d < 26 then Char.ofNat (97 + d) else Char.ofNat (22 + d)

/-- The value of a digit. -/
def digitValue? (c : Char) : Option Nat :=
  if c.isDigit then some (c.toNat - 22)
  else if c.isAlpha then some (c.toLower.toNat - 97)
  else none

theorem threshold_pos (place bias : Nat) : 1 ≤ threshold place bias :=
  Nat.le_max_left ..

/-- A difference as digits, from a place on. -/
def digits (bias place delta : Nat) : List Char :=
  let t := threshold place bias
  if delta < t then [digit delta]
  else digit (t + (delta - t) % (36 - t)) :: digits bias (place + 36) ((delta - t) / (36 - t))
termination_by delta
decreasing_by
  have := threshold_pos place bias
  exact Nat.lt_of_le_of_lt (Nat.div_le_self ..) (by omega)

/-- How far the encoding of a label is. -/
structure Progress where
  output : List Char
  point : Nat
  delta : Nat
  bias : Nat
  handled : Nat

/-- Insert the occurrences of one code point into what is encoded of a label. -/
def insertPoint (label : List Nat) (basic : Nat) (p : Progress) (point : Nat) : Progress :=
  let start := { p with delta := p.delta + (point - p.point) * (p.handled + 1), point := point }
  let done := label.foldl (fun (p : Progress) c =>
    if c < point then { p with delta := p.delta + 1 }
    else if c = point then
      { p with
        output := p.output ++ digits p.bias 36 p.delta
        bias := adapt p.delta (p.handled + 1) (p.handled == basic)
        delta := 0
        handled := p.handled + 1 }
    else p) start
  { done with delta := done.delta + 1, point := point + 1 }

/-- The Punycode form of a label. -/
def encode (label : List Char) : List Char :=
  let points := label.map Char.toNat
  let ascii := label.filter (·.toNat < 0x80)
  let others := ((points.filter (0x80 ≤ ·)).mergeSort (· ≤ ·)).eraseReps
  let start : Progress :=
    { output := ascii ++ if ascii.isEmpty then [] else ['-']
      point := 0x80, delta := 0, bias := 72, handled := ascii.length }
  (others.foldl (insertPoint points ascii.length) start).output

/-- How far the decoding of a label is: its characters so far, the code point and the position
last inserted, and the digits read of the next difference. -/
structure Decoding where
  output : List Nat
  point : Nat := 0x80
  position : Nat := 0
  bias : Nat := 72
  delta : Nat := 0
  weight : Nat := 1
  place : Nat := 36
  isFirst : Bool := true

/-- Differences, positions and weights stay below this number. -/
def wordSize : Nat := Nat.pow 2 32

/-- Read one digit. -/
def Decoding.step (s : Decoding) (c : Char) : Option Decoding := do
  let d ← digitValue? c
  let delta := s.delta + d * s.weight
  let t := threshold s.place s.bias
  if wordSize ≤ s.position + delta then none
  if t ≤ d then
    let weight := s.weight * (36 - t)
    if wordSize ≤ weight then none
    return { s with delta, weight, place := s.place + 36 }
  let count := s.output.length + 1
  let index := s.position + delta
  let point := s.point + index / count
  let position := index % count
  if 0x110000 ≤ point then none
  else
    return { output := s.output.take position ++ point :: s.output.drop position
             point, position := position + 1
             bias := adapt delta count s.isFirst, isFirst := false }

/-- The label of a Punycode form. A hyphen at its beginning ends no ASCII characters, and it is
no digit. -/
def decode? (cs : List Char) : Option (List Char) := do
  let tail := (cs.reverse.takeWhile (· ≠ '-')).reverse
  let ascii := cs.take (cs.length - tail.length - 1)
  if ascii.any (0x80 ≤ ·.toNat) ∨ (ascii.isEmpty ∧ cs.head? = some '-') then none
  let s ← tail.foldlM Decoding.step { output := ascii.map Char.toNat }
  if s.place ≠ 36 then none
  s.output.mapM fun n => if n.isValidChar then some (Char.ofNat n) else none

end FeedRelay.Url.Punycode
