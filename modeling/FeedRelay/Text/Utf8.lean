/-!
# Bytes as characters

UTF-8, written and read. Reading cuts a byte sequence into pieces: characters, and broken
runs that begin no character. A broken run is as long as the longest beginning of a
character at its place, so a lossy reading replaces each run by one replacement character.
-/

namespace FeedRelay.Text.Utf8

/-- The bytes of one character. -/
def encodeChar (c : Char) : List UInt8 :=
  let n := c.toNat
  let tail (k : Nat) : UInt8 := UInt8.ofNat (0x80 + n / Nat.pow 64 k % 64)
  if n < 0x80 then [UInt8.ofNat n]
  else if n < 0x800 then [UInt8.ofNat (0xC0 + n / 64), tail 0]
  else if n < 0x10000 then [UInt8.ofNat (0xE0 + n / 4096), tail 1, tail 0]
  else [UInt8.ofNat (0xF0 + n / 262144), tail 2, tail 1, tail 0]

/-- The bytes of a list of characters. -/
def encode (cs : List Char) : List UInt8 :=
  cs.flatMap encodeChar

/-- The number of bytes of a list of characters. -/
def size (cs : List Char) : Nat :=
  cs.foldl (fun n c => n + c.utf8Size) 0

/-- A piece of a byte sequence: a character, or bytes that begin none. -/
inductive Piece where
  | char (c : Char)
  | broken (bytes : List UInt8)
  deriving DecidableEq, Repr

/-- What a first byte promises: its own payload, the number of bytes that follow, and the
range of the first of them. -/
structure Promise where
  payload : Nat
  more : Nat
  low : UInt8 := 0x80
  high : UInt8 := 0xBF

/-- The promise of a first byte; bytes that begin no character promise nothing. -/
def promise? (b : UInt8) : Option Promise :=
  if b < 0x80 then some { payload := b.toNat, more := 0 }
  else if b < 0xC2 then none
  else if b < 0xE0 then some { payload := b.toNat - 0xC0, more := 1 }
  else if b = 0xE0 then some { payload := 0, more := 2, low := 0xA0 }
  else if b = 0xED then some { payload := 0xD, more := 2, high := 0x9F }
  else if b < 0xF0 then some { payload := b.toNat - 0xE0, more := 2 }
  else if b = 0xF0 then some { payload := 0, more := 3, low := 0x90 }
  else if b < 0xF4 then some { payload := b.toNat - 0xF0, more := 3 }
  else if b = 0xF4 then some { payload := 4, more := 3, high := 0x8F }
  else none

/-- Keep a promise of `more` bytes: the character they complete, or the run that breaks it. -/
def follow (payload : Nat) (taken : List UInt8) :
    (more : Nat) → (low high : UInt8) → List UInt8 → Piece × List UInt8
  | 0, _, _, rest => (.char (Char.ofNat payload), rest)
  | _ + 1, _, _, [] => (.broken taken, [])
  | more + 1, low, high, b :: rest =>
    if low ≤ b ∧ b ≤ high then
      follow (payload * 64 + (b.toNat - 0x80)) (taken ++ [b]) more 0x80 0xBF rest
    else (.broken taken, b :: rest)

theorem length_follow_le (payload : Nat) (taken : List UInt8) (more : Nat) (low high : UInt8)
    (rest : List UInt8) : (follow payload taken more low high rest).2.length ≤ rest.length := by
  induction more generalizing payload taken low high rest with
  | zero => simp [follow]
  | succ more ih =>
    cases rest with
    | nil => simp [follow]
    | cons b rest =>
      simp only [follow]
      split
      · exact Nat.le_succ_of_le (ih ..)
      · simp

/-- The first piece of a sequence that starts with `b`, and what comes after it. -/
def first (b : UInt8) (rest : List UInt8) : Piece × List UInt8 :=
  match promise? b with
  | some p => follow p.payload [b] p.more p.low p.high rest
  | none => (.broken [b], rest)

theorem length_first_le (b : UInt8) (rest : List UInt8) :
    (first b rest).2.length ≤ rest.length := by
  unfold first
  split
  · exact length_follow_le ..
  · simp

/-- A byte sequence, cut into characters and broken runs. -/
def pieces : List UInt8 → List Piece
  | [] => []
  | b :: rest => (first b rest).1 :: pieces (first b rest).2
termination_by bytes => bytes.length
decreasing_by exact Nat.lt_succ_of_le (length_first_le b rest)

/-- The characters of a byte sequence, if all of it is UTF-8. -/
def decode? (bytes : List UInt8) : Option (List Char) :=
  (pieces bytes).mapM fun
    | .char c => some c
    | .broken _ => none

/-- The character that stands for a broken run. -/
def replacement : Char := '\uFFFD'

/-- The characters of a byte sequence, each broken run replaced by one character. -/
def decodeLossy (bytes : List UInt8) : List Char :=
  (pieces bytes).map fun
    | .char c => c
    | .broken _ => replacement

end FeedRelay.Text.Utf8
