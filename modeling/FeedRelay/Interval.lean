/-!
# Intervals of time

An interval is a number of nanoseconds up to a fixed limit; sums and products that pass the
limit stay at it. Its text uses the largest unit of which it holds at least one.
-/

namespace FeedRelay

namespace Interval

/-- The nanoseconds of a second. -/
def perSecond : Nat := 1000000000

/-- The nanoseconds of the longest interval: seconds fit into 64 bits. -/
def limit : Nat := (Nat.pow 2 64 - 1) * perSecond + (perSecond - 1)

end Interval

/-- An interval of time. -/
structure Interval where
  nanoseconds : Nat
  le_limit : nanoseconds ≤ Interval.limit
  deriving DecidableEq, Repr

namespace Interval

/-- The interval of a number of nanoseconds, or the longest one. -/
def ofNanoseconds (n : Nat) : Interval :=
  ⟨min n limit, Nat.min_le_right ..⟩

/-- The interval of a number of milliseconds, or the longest one. -/
def ofMilliseconds (n : Nat) : Interval :=
  ofNanoseconds (n * 1000000)

/-- The whole seconds of an interval. -/
def seconds (d : Interval) : Nat :=
  d.nanoseconds / perSecond

/-- The nanoseconds of an interval beyond its whole seconds. -/
def fraction (d : Interval) : Nat :=
  d.nanoseconds % perSecond

/-- The milliseconds of an interval, a part of one counted as one. -/
def millisecondsUp (d : Interval) : Nat :=
  (d.nanoseconds + 999999) / 1000000

/-- The shorter of two intervals. -/
def shorter (a b : Interval) : Interval :=
  if a.nanoseconds ≤ b.nanoseconds then a else b

/-- The longer of two intervals. -/
def longer (a b : Interval) : Interval :=
  if a.nanoseconds ≤ b.nanoseconds then b else a

/-- An interval a number of times, or the longest one. -/
def scale (d : Interval) (factor : Nat) : Interval :=
  ofNanoseconds (d.nanoseconds * factor)

/-- A number of a unit, with as many of `places` decimal places as are not zeros at the end. -/
def inUnit (whole part places : Nat) (unit : String) : String :=
  let digits := Nat.toDigits 10 part
  let padded := List.replicate (places - digits.length) '0' ++ digits
  let shown := (padded.reverse.dropWhile (· = '0')).reverse
  toString whole ++ (if part = 0 then "" else "." ++ String.ofList shown) ++ unit

/-- The text of an interval. -/
def toText (d : Interval) : String :=
  let n := d.nanoseconds
  if perSecond ≤ n then inUnit d.seconds d.fraction 9 "s"
  else if 1000000 ≤ n then inUnit (n / 1000000) (n % 1000000) 6 "ms"
  else if 1000 ≤ n then inUnit (n / 1000) (n % 1000) 3 "µs"
  else inUnit n 0 0 "ns"

end Interval

end FeedRelay
