import FeedRelay.Decimal.Literal
import FeedRelay.Text.Hex
import FeedRelay.Toml.Document

/-!
# TOML numbers, dates and times

The items that are written without quotes. Underscores may stand between digits, and a number
does not start with a zero that could be left out. Dates and times are checked and kept as
texts in their usual form.
-/

namespace FeedRelay.Toml

/-- The digits of a text in which underscores stand only between digits. -/
def digits? (isDigit : Char → Bool) : List Char → Option (List Char)
  | [] => none
  | [c] => if isDigit c then some [c] else none
  | c :: '_' :: rest =>
    if isDigit c then (digits? isDigit rest).map (c :: ·) else none
  | c :: rest => if isDigit c then (digits? isDigit rest).map (c :: ·) else none

/-- The digits before the point of a number. -/
def wholeDigits? (cs : List Char) : Option (List Char) := do
  let digits ← digits? Char.isDigit cs
  if digits.head? = some '0' ∧ 1 < digits.length then none else return digits

/-- A whole number in a base other than ten. -/
def inBase? (base : Nat) (cs : List Char) : Option Int := do
  let digits ← digits? (fun c => ((Text.Hex.value? c).filter (· < base)).isSome) cs
  let n := digits.foldl (fun n c => base * n + (Text.Hex.value? c).getD 0) 0
  return n

/-- A whole number. -/
def whole? : List Char → Option Int
  | '0' :: 'x' :: rest => inBase? 16 rest
  | '0' :: 'o' :: rest => inBase? 8 rest
  | '0' :: 'b' :: rest => inBase? 2 rest
  | cs => do
    let (negative, rest) := Decimal.Literal.sign cs
    let n := Decimal.Literal.value (← wholeDigits? rest)
    return if negative then -(n : Int) else n

/-- The text before the first character of a kind and the text from there on. -/
def cut (here : Char → Bool) (cs : List Char) : List Char × List Char :=
  (cs.takeWhile (!here ·), cs.dropWhile (!here ·))

/-- The digits of an exponent part with its letter and sign; a missing part is empty. -/
def exponentPart? : List Char → Option (List Char)
  | [] => some []
  | e :: rest => do
    let signed := match rest with
      | '+' :: digits => ([], digits)
      | '-' :: digits => (['-'], digits)
      | digits => ([], digits)
    return e :: signed.1 ++ (← digits? Char.isDigit signed.2)

/-- A number with a fraction or an exponent. It must not be too great. -/
def fractional? (cs : List Char) : Option Decimal.Binary64 := do
  let (negative, rest) := Decimal.Literal.sign cs
  let (mantissa, exponent) := cut (fun c => c = 'e' || c = 'E') rest
  let (whole, fraction) := cut (· = '.') mantissa
  let wholeDigits ← wholeDigits? whole
  let fractionDigits ← match fraction with
    | [] => if exponent.isEmpty then none else some []
    | _ :: digits => (digits? Char.isDigit digits).map ('.' :: ·)
  let exponentDigits ← exponentPart? exponent
  let x ← Decimal.Literal.float? (wholeDigits ++ fractionDigits ++ exponentDigits)
  if x.isInfinite then none else return if negative then x.neg else x

/-- A number of exactly so many digits. -/
def fixed? (count : Nat) (cs : List Char) : Option (Nat × List Char) :=
  if cs.length < count then none
  else (Decimal.Literal.natural? (cs.take count)).map fun n => (n, cs.drop count)

/-- Drop a character that has to be there. -/
def expect (c : Char) : List Char → Option (List Char)
  | d :: rest => if d = c then some rest else none
  | [] => none

/-- The days of a month. -/
def daysOf (year month : Nat) : Nat :=
  if month = 2 then
    if year % 4 = 0 ∧ (year % 100 ≠ 0 ∨ year % 400 = 0) then 29 else 28
  else if [4, 6, 9, 11].contains month then 30
  else 31

/-- A number written with at least so many digits. -/
def padded (count n : Nat) : List Char :=
  let digits := Nat.toDigits 10 n
  List.replicate (count - digits.length) '0' ++ digits

/-- A date in its usual form. -/
def date? (cs : List Char) : Option (List Char × List Char) := do
  let (year, cs) ← fixed? 4 cs
  let (month, cs) ← fixed? 2 (← expect '-' cs)
  let (day, cs) ← fixed? 2 (← expect '-' cs)
  if month = 0 ∨ 12 < month ∨ day = 0 ∨ daysOf year month < day then none
  else return (padded 4 year ++ '-' :: padded 2 month ++ '-' :: padded 2 day, cs)

/-- The fraction of a second, in nanoseconds and without zeros at its end, of which one is left if
there is nothing else. -/
def fractionOfSecond? (cs : List Char) : Option (List Char × List Char) :=
  match cs with
  | '.' :: rest =>
    let (digits, rest) := cut (!·.isDigit) rest
    let shown := ((digits.take 9).reverse.dropWhile (· = '0')).reverse
    if digits.isEmpty then none
    else some ('.' :: (if shown.isEmpty then ['0'] else shown), rest)
  | _ => some ([], cs)

/-- A time of day in its usual form. Seconds may be left out. -/
def time? (cs : List Char) : Option (List Char × List Char) := do
  let (hour, cs) ← fixed? 2 cs
  let (minute, cs) ← fixed? 2 (← expect ':' cs)
  if 23 < hour ∨ 59 < minute then none
  let start := padded 2 hour ++ ':' :: padded 2 minute
  match cs with
  | ':' :: rest =>
    let (second, rest) ← fixed? 2 rest
    if 60 < second then none
    let (fraction, rest) ← fractionOfSecond? rest
    return (start ++ ':' :: padded 2 second ++ fraction, rest)
  | _ => return (start, cs)

/-- The distance of a time from universal time, in its usual form; it may be missing. No distance
has a plus sign. -/
def zone? : List Char → Option (List Char)
  | [] => some []
  | [c] => if c = 'Z' ∨ c = 'z' then some ['Z'] else none
  | c :: rest => do
    if c ≠ '+' ∧ c ≠ '-' then none
    let (hour, rest) ← fixed? 2 rest
    let (minute, rest) ← fixed? 2 (← expect ':' rest)
    if 23 < hour ∨ 59 < minute ∨ !rest.isEmpty then none
    let sign := if hour = 0 ∧ minute = 0 then '+' else c
    return sign :: padded 2 hour ++ ':' :: padded 2 minute

/-- A time behind a date, with its zone. -/
def timeBehindDate? : List Char → Option (List Char)
  | [] => some []
  | c :: rest => do
    if c ≠ 'T' ∧ c ≠ 't' ∧ c ≠ ' ' then none
    let (time, rest) ← time? rest
    return 'T' :: time ++ (← zone? rest)

/-- A date, a time, or both, in their usual form. -/
def moment? (cs : List Char) : Option String :=
  match date? cs with
  | some (date, rest) => (timeBehindDate? rest).map fun time => String.ofList (date ++ time)
  | none =>
    match time? cs with
    | some (time, []) => some (String.ofList time)
    | _ => none

/-- The special values, by name. -/
def special? (cs : List Char) : Option Item :=
  match String.ofList cs with
  | "true" => some (.bool true)
  | "false" => some (.bool false)
  | "inf" | "+inf" => some (.real (.infinite false))
  | "-inf" => some (.real (.infinite true))
  | "nan" | "+nan" | "-nan" => some (.real .nan)
  | _ => none

/-- The item of a text without quotes. Whole numbers fit into 64 bits. -/
def scalar? (cs : List Char) : Option Item :=
  match special? cs, whole? cs with
  | some item, _ => some item
  | none, some i => if -(Nat.pow 2 63 : Int) ≤ i ∧ i < Nat.pow 2 63 then some (.integer i) else none
  | none, none =>
    match fractional? cs with
    | some x => some (.real x)
    | none => (moment? cs).map .text

/-- The characters of items without quotes. -/
def isScalarChar (c : Char) : Bool :=
  c.isAlphanum || ['+', '-', '_', '.', ':'].contains c

/-- The text of an item without quotes, and what follows it. A date may have a time behind one
blank. -/
def scalarText (text : List Char) : List Char × List Char :=
  let (first, rest) := (text.takeWhile isScalarChar, text.dropWhile isScalarChar)
  match date? first, rest with
  | some (_, []), ' ' :: c :: more =>
    if c.isDigit then
      (first ++ ' ' :: (c :: more).takeWhile isScalarChar, (c :: more).dropWhile isScalarChar)
    else (first, rest)
  | _, _ => (first, rest)

end FeedRelay.Toml
