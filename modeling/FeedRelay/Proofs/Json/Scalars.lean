import Mathlib.Tactic.IntervalCases
import FeedRelay.Json.Printer
import FeedRelay.Proofs.Json.Regular

/-!
# Reading written numbers and strings

A whole number of 64 bits is read from its decimal digits (`value_renderInteger`) and a string from
its characters, escaped or not (`string_render`), whatever text goes on behind them.
-/

namespace FeedRelay.Json

/-- A text that ends, or goes on with what separates or closes the parts of a value. -/
def Closed (rest : List Char) : Prop :=
  ∀ c, rest.head? = some c → c = ',' ∨ c = ']' ∨ c = '\x7d'

variable {rest : List Char}

/-! ### Whole numbers -/

namespace Number

theorem gather_cons {s : Nat} {c : Char} (hc : c.isDigit = true)
    (hs : 10 * s + (c.toNat - '0'.toNat) < significandLimit) (rest : List Char) :
    gather s (c :: rest) =
      ((gather (10 * s + (c.toNat - '0'.toNat)) rest).1,
        (gather (10 * s + (c.toNat - '0'.toNat)) rest).2.1 + 1,
        (gather (10 * s + (c.toNat - '0'.toNat)) rest).2.2) := by
  rw [gather, if_pos]
  · rfl
  · exact Bool.and_eq_true_iff.mpr ⟨hc, decide_eq_true hs⟩

theorem gather_of_not_startsWithDigit (s : Nat) (h : startsWithDigit rest = false) :
    gather s rest = (s, 0, rest) := by
  cases rest with
  | nil => rfl
  | cons c rest =>
    have hc : c.isDigit = false := h
    rw [gather, if_neg (by simp [hc])]

theorem le_ofDigitChars (digits : List Char) (s : Nat) : s ≤ Nat.ofDigitChars 10 digits s := by
  induction digits generalizing s with
  | nil => exact le_rfl
  | cons c digits ih =>
    have hnext := ih (10 * s + (c.toNat - '0'.toNat))
    rw [Nat.ofDigitChars_cons]
    omega

/-- Digits are gathered into the number they stand for, as far as it fits. -/
theorem gather_append {digits : List Char} (hdigits : ∀ c ∈ digits, c.isDigit = true) {s : Nat}
    (hs : Nat.ofDigitChars 10 digits s < significandLimit) (hrest : startsWithDigit rest = false) :
    gather s (digits ++ rest) = (Nat.ofDigitChars 10 digits s, digits.length, rest) := by
  induction digits generalizing s with
  | nil => exact gather_of_not_startsWithDigit s hrest
  | cons c digits ih =>
    obtain ⟨hc, hmore⟩ := List.forall_mem_cons.mp hdigits
    rw [Nat.ofDigitChars_cons] at hs ⊢
    -- The digits that follow only raise the number, so it fits at every step.
    have hfits := (le_ofDigitChars digits _).trans_lt hs
    rw [List.cons_append, gather_cons hc hfits, ih hmore hs, List.length_cons]

/-- The digits of a number other than zero do not begin with a zero. -/
theorem exists_digitsOf_eq_cons (n : Nat) (hn : 0 < n) :
    ∃ c tail, Decimal.digitsOf n = c :: tail ∧ c ≠ '0' := by
  induction n using Nat.strongRecOn with
  | ind n ih =>
    by_cases hlt : n < 10
    · refine ⟨n.digitChar, [], Nat.toDigits_of_lt_base hlt, ?_⟩
      interval_cases n <;> decide
    · obtain ⟨c, tail, htail, hc⟩ := ih (n / 10) (by omega) (by omega)
      refine ⟨c, tail ++ [(n % 10).digitChar], ?_, hc⟩
      rw [Decimal.digitsOf, Nat.toDigits_of_base_le (by decide) (Nat.not_lt.mp hlt)]
      exact congrArg (· ++ [(n % 10).digitChar]) htail

theorem isDigit_of_mem_digitsOf {n : Nat} {c : Char} (h : c ∈ Decimal.digitsOf n) :
    c.isDigit = true :=
  Nat.isDigit_of_mem_toDigits (by decide) (by decide) h

theorem startsWithDigit_of_closed (hrest : Closed rest) : startsWithDigit rest = false := by
  cases rest with
  | nil => rfl
  | cons c rest => rcases hrest c rfl with rfl | rfl | rfl <;> rfl

/-- The digits of a significand are read as that significand. -/
theorem read_digitsOf (negative : Bool) {n : Nat} (hn : n < significandLimit)
    (hrest : Closed rest) :
    read negative (Decimal.digitsOf n ++ rest) = afterDigits negative n 0 rest := by
  have hstop := startsWithDigit_of_closed hrest
  rcases Nat.eq_zero_or_pos n with rfl | hpos
  · change (if startsWithDigit rest then _ else afterDigits negative 0 0 rest) = _
    rw [if_neg (by simp [hstop])]
  · obtain ⟨c, tail, hdigits, hc⟩ := exists_digitsOf_eq_cons n hpos
    have hvalue : Nat.ofDigitChars 10 (c :: tail) 0 = n := by
      rw [← hdigits]
      exact Nat.ofDigitChars_toDigits (by decide) (by decide)
    have hall : ∀ d ∈ c :: tail, d.isDigit = true := fun d hd =>
      isDigit_of_mem_digitsOf (hdigits ▸ hd)
    have hgather := gather_append (s := 0) hall (by rwa [hvalue]) hstop
    have htake : rest.takeWhile Char.isDigit = [] ∧ rest.dropWhile Char.isDigit = rest := by
      cases rest with
      | nil => exact ⟨rfl, rfl⟩
      | cons d rest =>
        have hd : d.isDigit = false := hstop
        simp [hd]
    rw [hvalue, List.cons_append] at hgather
    -- A leading zero would stand alone.
    rw [hdigits, List.cons_append, read]
    · rw [if_pos (hall c List.mem_cons_self), hgather]
      simp only [htake, List.length_nil]
    · exact fun h => hc h

theorem afterDigits_of_closed (negative : Bool) (s : Nat) (hrest : Closed rest) :
    afterDigits negative s 0 rest =
      if !negative then .ok (.integer s, rest)
      else if s = 0 ∨ Nat.pow 2 63 < s then .ok (.real (Decimal.Binary64.ofNat s).neg, rest)
      else .ok (.integer (-s), rest) := by
  unfold afterDigits
  split
  · exact absurd (hrest _ rfl) (by decide)
  · exact absurd (hrest _ rfl) (by decide)
  · exact absurd (hrest _ rfl) (by decide)
  · rfl

end Number

/-! ### Strings -/

theorem stringBody_backslash {text after : List Char} {c : Char}
    (h : escape text = .ok (c, after)) :
    stringBody ('\\' :: text) = (stringBody after).map fun (cs, rest) => (c :: cs, rest) := by
  rw [stringBody, if_neg (by decide), if_pos rfl]
  split
  · rename_i hread
    rw [h] at hread
    cases hread
    rfl
  · rename_i hread
    rw [h] at hread
    cases hread

/-- A control is read from its two last hexadecimal digits. -/
theorem escape_control {n : Nat} (hn : n < 0x20) (rest : List Char) :
    escape ('u' :: '0' :: '0' :: Text.Hex.lower (n / 16) :: Text.Hex.lower (n % 16) :: rest) =
      .ok (Char.ofNat n, rest) := by
  interval_cases n <;> rfl

/-- A written character is read as that character. -/
theorem stringBody_escapeChar (c : Char) (rest : List Char) :
    stringBody (escapeChar c ++ rest) =
      (stringBody rest).map fun (cs, rest) => (c :: cs, rest) := by
  unfold escapeChar
  split
  · exact stringBody_backslash rfl
  · exact stringBody_backslash rfl
  · exact stringBody_backslash rfl
  · exact stringBody_backslash rfl
  · exact stringBody_backslash rfl
  · exact stringBody_backslash rfl
  · exact stringBody_backslash rfl
  · rename_i hquote hslash _ _ _ _ _
    split
    · rename_i hcontrol
      have hescape := escape_control hcontrol rest
      rw [Char.ofNat_toNat] at hescape
      exact stringBody_backslash hescape
    · rename_i hcontrol
      rw [List.singleton_append, stringBody, if_neg hquote, if_neg hslash, if_neg hcontrol]

/-- A written string is read up to the quote behind it. -/
theorem string_render (s : String) (rest : List Char) :
    string (s.toList.flatMap escapeChar ++ '"' :: rest) = .ok (s, rest) := by
  have hbody : ∀ cs : List Char,
      stringBody (cs.flatMap escapeChar ++ '"' :: rest) = .ok (cs, rest) := by
    intro cs
    induction cs with
    | nil => rw [List.flatMap_nil, List.nil_append, stringBody, if_pos rfl]
    | cons c cs ih =>
      rw [List.flatMap_cons, List.append_assoc, stringBody_escapeChar, ih]
      rfl
  rw [string, hbody]
  exact congrArg (fun t => Except.ok (t, rest)) String.ofList_toList

/-! ### Beginnings of values -/

/-- A text that begins neither with a blank nor with the end of an array. -/
def Opens (text : List Char) : Prop :=
  ∃ c tail, text = c :: tail ∧ isBlank c = false ∧ c ≠ ']'

theorem skipBlanks_cons {c : Char} (h : isBlank c = false) (rest : List Char) :
    skipBlanks (c :: rest) = c :: rest := by
  rw [skipBlanks, List.dropWhile_cons_of_neg (by simp [h])]

/-- What begins neither an array nor an object is a scalar. -/
theorem value_eq_scalar (depth : Nat) {c : Char} (hblank : isBlank c = false) (harray : c ≠ '[')
    (hobject : c ≠ '\x7b') (rest : List Char) :
    value depth (c :: rest) = scalar (c :: rest) := by
  cases depth <;>
  · rw [value, skipBlanks_cons hblank]
    split
    · rename_i heq
      exact absurd (List.cons.inj heq).1 harray
    · rename_i heq
      exact absurd (List.cons.inj heq).1 hobject
    · rfl

theorem ne_of_isDigit {c d : Char} (h : c.isDigit = true) (hd : d.isDigit = false) : c ≠ d := by
  rintro rfl
  rw [h] at hd
  cases hd

theorem scalar_of_isDigit {c : Char} (h : c.isDigit = true) (rest : List Char) :
    scalar (c :: rest) = Number.read false (c :: rest) := by
  rw [scalar, if_pos h]
  all_goals exact fun hc => ne_of_isDigit h rfl hc

theorem isBlank_of_isDigit {c : Char} (h : c.isDigit = true) : isBlank c = false := by
  simp [isBlank, ne_of_isDigit h]

theorem exists_digitsOf (n : Nat) :
    ∃ c tail, Decimal.digitsOf n = c :: tail ∧ c.isDigit = true := by
  obtain ⟨c, tail, hdigits⟩ := List.exists_cons_of_ne_nil (Nat.toDigits_ne_nil (n := n) (b := 10))
  have hmem : c ∈ Decimal.digitsOf n := by
    rw [Decimal.digitsOf, hdigits]
    exact List.mem_cons_self
  exact ⟨c, tail, hdigits, Number.isDigit_of_mem_digitsOf hmem⟩

theorem opens_renderInteger (i : Int) : Opens (renderInteger i) := by
  by_cases hneg : i < 0
  · exact ⟨'-', _, by rw [renderInteger, if_pos hneg], by decide, by decide⟩
  · obtain ⟨c, tail, hdigits, hc⟩ := exists_digitsOf i.natAbs
    refine ⟨c, tail, ?_, isBlank_of_isDigit hc, ne_of_isDigit hc rfl⟩
    rw [renderInteger, if_neg hneg, hdigits]

/-- A whole number of 64 bits is read back. -/
theorem value_renderInteger (depth : Nat) {i : Int} (hlow : -2 ^ 63 ≤ i) (hhigh : i < 2 ^ 64)
    (hrest : Closed rest) : value depth (renderInteger i ++ rest) = .ok (.integer i, rest) := by
  have hfits : i.natAbs < Number.significandLimit := by
    change i.natAbs < 2 ^ 64
    omega
  have hread (negative : Bool) := Number.read_digitsOf negative hfits hrest
  rw [renderInteger]
  by_cases hneg : i < 0
  · have hmagnitude : ¬(i.natAbs = 0 ∨ Nat.pow 2 63 < i.natAbs) := by
      change ¬(i.natAbs = 0 ∨ 2 ^ 63 < i.natAbs)
      omega
    rw [if_pos hneg, List.cons_append, value_eq_scalar depth rfl (by decide) (by decide)]
    change Number.read true _ = _
    rw [hread, Number.afterDigits_of_closed _ _ hrest, if_neg (by simp), if_neg hmagnitude]
    exact congrArg (fun j => Except.ok (Value.integer j, rest)) (by omega)
  · obtain ⟨c, tail, hdigits, hc⟩ := exists_digitsOf i.natAbs
    have hscalar := value_eq_scalar depth (isBlank_of_isDigit hc) (ne_of_isDigit hc rfl)
      (ne_of_isDigit hc rfl) (tail ++ rest)
    rw [scalar_of_isDigit hc, ← List.cons_append, ← hdigits, hread,
      Number.afterDigits_of_closed _ _ hrest, if_pos (by decide)] at hscalar
    rw [if_neg hneg, hscalar]
    exact congrArg (fun j => Except.ok (Value.integer j, rest)) (by omega)

end FeedRelay.Json
