import Mathlib.Tactic.IntervalCases
import FeedRelay.Text.Percent

/-!
# Reading what was encoded

The bytes of a text in UTF-8 fall into the characters of the text again (`Utf8.pieces_encode`), and
a percent-encoded text stands for the bytes of the text if the percent sign is escaped itself
(`Percent.decode_encode`). So different texts have different encodings, whatever else an encoding
leaves as it is (`Percent.encode_injective`).
-/

namespace FeedRelay.Text

/-! ### Characters as bytes -/

namespace Utf8

theorem toNat_ofNat_of_lt {n : Nat} (h : n < 256) : (UInt8.ofNat n).toNat = n := by
  rw [UInt8.toNat_ofNat']
  exact Nat.mod_eq_of_lt h

/-- A byte below 0x80 is a character of its own. -/
theorem promise?_one {n : Nat} (h : n < 0x80) :
    promise? (UInt8.ofNat n) = some { payload := n, more := 0 } := by
  have hn : (UInt8.ofNat n).toNat = n := toNat_ofNat_of_lt (Nat.lt_trans h (by decide))
  have hlt : UInt8.ofNat n < 0x80 := by
    rw [UInt8.lt_iff_toNat_lt, hn]
    exact h
  rw [promise?, if_pos hlt, hn]

/-- The first byte of two. -/
theorem promise?_two {n : Nat} (hlow : 2 ≤ n) (h : n < 32) :
    promise? (UInt8.ofNat (0xC0 + n)) = some { payload := n, more := 1 } := by
  interval_cases n <;> rfl

/-- The first byte of three. What may follow it is neither a shorter form nor a surrogate. -/
theorem promise?_three {n : Nat} (h : n < 16) :
    promise? (UInt8.ofNat (0xE0 + n)) = some
      { payload := n, more := 2, low := if n = 0 then 0xA0 else 0x80,
        high := if n = 13 then 0x9F else 0xBF } := by
  interval_cases n <;> rfl

/-- The first byte of four. What may follow it is neither a shorter form nor beyond the last code
point. -/
theorem promise?_four {n : Nat} (h : n < 5) :
    promise? (UInt8.ofNat (0xF0 + n)) = some
      { payload := n, more := 3, low := if n = 0 then 0x90 else 0x80,
        high := if n = 4 then 0x8F else 0xBF } := by
  interval_cases n <;> rfl

/-- A byte that carries six bits keeps a promise if it lies in the range that the promise allows. -/
theorem follow_tail {payload more k : Nat} {taken rest : List UInt8} {low high : UInt8}
    (hk : k < 64) (hlow : low.toNat ≤ 0x80 + k) (hhigh : 0x80 + k ≤ high.toNat) :
    follow payload taken (more + 1) low high (UInt8.ofNat (0x80 + k) :: rest) =
      follow (payload * 64 + k) (taken ++ [UInt8.ofNat (0x80 + k)]) more 0x80 0xBF rest := by
  have hbyte : (UInt8.ofNat (0x80 + k)).toNat = 0x80 + k := toNat_ofNat_of_lt (by omega)
  have hrange : low ≤ UInt8.ofNat (0x80 + k) ∧ UInt8.ofNat (0x80 + k) ≤ high := by
    rw [UInt8.le_iff_toNat_le, UInt8.le_iff_toNat_le, hbyte]
    exact ⟨hlow, hhigh⟩
  rw [follow, if_pos hrange, hbyte, Nat.add_sub_cancel_left]

/-- A byte that carries six bits always keeps a promise of any tail byte. -/
theorem follow_any {payload more k : Nat} {taken rest : List UInt8} (hk : k < 64) :
    follow payload taken (more + 1) 0x80 0xBF (UInt8.ofNat (0x80 + k) :: rest) =
      follow (payload * 64 + k) (taken ++ [UInt8.ofNat (0x80 + k)]) more 0x80 0xBF rest :=
  follow_tail hk (Nat.le_add_right _ _) (by change _ ≤ 0xBF; omega)

theorem first_of_promise {b : UInt8} {p : Promise} (h : promise? b = some p)
    (rest : List UInt8) : first b rest = follow p.payload [b] p.more p.low p.high rest := by
  rw [first, h]

/-- A character has a code point that is no surrogate. -/
theorem toNat_bounds (c : Char) :
    c.toNat < 0xD800 ∨ 0xDFFF < c.toNat ∧ c.toNat < 0x110000 :=
  c.valid

/-- The bytes of a character are read as that character, whatever follows them. -/
theorem first_encodeChar (c : Char) (rest : List UInt8) :
    ∃ b tail, encodeChar c = b :: tail ∧ first b (tail ++ rest) = (.char c, rest) := by
  have hpow : Nat.pow 64 0 = 1 ∧ Nat.pow 64 1 = 64 ∧ Nat.pow 64 2 = 4096 := by decide
  have hbounds := toNat_bounds c
  have hchar {n : Nat} (hn : n = c.toNat) : Piece.char (Char.ofNat n) = .char c := by
    rw [hn, Char.ofNat_toNat]
  simp only [encodeChar, hpow.1, hpow.2.1, hpow.2.2, Nat.div_one]
  split
  · rename_i hone
    refine ⟨_, [], rfl, ?_⟩
    rw [first_of_promise (promise?_one hone), List.nil_append]
    exact Prod.ext (hchar rfl) rfl
  · split
    · refine ⟨_, _, rfl, ?_⟩
      rw [first_of_promise (promise?_two (n := c.toNat / 64) (by omega) (by omega))]
      simp only [List.cons_append, List.nil_append]
      rw [follow_any (Nat.mod_lt _ (by decide))]
      exact Prod.ext (hchar (by omega)) rfl
    · split
      · refine ⟨_, _, rfl, ?_⟩
        rw [first_of_promise (promise?_three (n := c.toNat / 4096) (by omega))]
        simp only [List.cons_append, List.nil_append]
        rw [follow_tail (Nat.mod_lt _ (by decide)) (by split <;> simp; omega)
          (by split <;> simp <;> omega), follow_any (Nat.mod_lt _ (by decide))]
        exact Prod.ext (hchar (by omega)) rfl
      · refine ⟨_, _, rfl, ?_⟩
        rw [first_of_promise (promise?_four (n := c.toNat / 262144) (by omega))]
        simp only [List.cons_append, List.nil_append]
        rw [follow_tail (Nat.mod_lt _ (by decide)) (by split <;> simp; omega)
          (by split <;> simp <;> omega), follow_any (Nat.mod_lt _ (by decide)),
          follow_any (Nat.mod_lt _ (by decide))]
        exact Prod.ext (hchar (by omega)) rfl

theorem pieces_encodeChar_append (c : Char) (rest : List UInt8) :
    pieces (encodeChar c ++ rest) = .char c :: pieces rest := by
  obtain ⟨b, tail, hbytes, hfirst⟩ := first_encodeChar c rest
  rw [hbytes, List.cons_append, pieces, hfirst]

/-- The bytes of a text fall into its characters. -/
theorem pieces_encode (cs : List Char) : pieces (encode cs) = cs.map .char := by
  induction cs with
  | nil => rw [encode, List.flatMap_nil, pieces, List.map_nil]
  | cons c rest ih =>
    rw [encode, List.flatMap_cons, pieces_encodeChar_append, List.map_cons, ← ih]
    rfl

theorem decodeLossy_encode (cs : List Char) : decodeLossy (encode cs) = cs := by
  rw [decodeLossy, pieces_encode, List.map_map]
  exact List.map_id cs

theorem encode_injective : Function.Injective encode :=
  Function.LeftInverse.injective decodeLossy_encode

end Utf8

/-! ### Percent-encoded texts -/

namespace Percent

theorem value?_upper {n : Nat} (h : n < 16) : Hex.value? (Hex.upper n) = some n := by
  interval_cases n <;> decide

theorem decode_escape_append (b : UInt8) (rest : List Char) :
    decode (escape b ++ rest) = b :: decode rest := by
  have hb : b.toNat < 256 := b.toNat_lt
  change decode ('%' :: Hex.upper (b.toNat / 16) :: Hex.upper (b.toNat % 16) :: rest) = _
  rw [decode, value?_upper (by omega), value?_upper (by omega)]
  refine congrArg (· :: decode rest) ?_
  rw [Nat.div_add_mod, UInt8.ofNat_toNat]

theorem decode_flatMap_escape_append (bytes : List UInt8) (rest : List Char) :
    decode (bytes.flatMap escape ++ rest) = bytes ++ decode rest := by
  induction bytes with
  | nil => rfl
  | cons b bytes ih =>
    rw [List.flatMap_cons, List.append_assoc, decode_escape_append, ih, List.cons_append]

/-- A character other than the percent sign stands for its bytes. -/
theorem decode_cons {c : Char} (h : c ≠ '%') (rest : List Char) :
    decode (c :: rest) = Utf8.encodeChar c ++ decode rest := by
  rw [decode.eq_def]
  split
  · rename_i heq
    cases heq
  · rename_i heq
    exact absurd (List.cons.inj heq).1 h
  · rename_i heq
    obtain ⟨rfl, rfl⟩ := List.cons.inj heq
    rfl

variable {keep : Char → Bool}

theorem decode_encodeChar_append (hkeep : keep '%' = false) (c : Char) (rest : List Char) :
    decode (encodeChar keep c ++ rest) = Utf8.encodeChar c ++ decode rest := by
  unfold encodeChar
  split
  · rename_i hkept
    refine decode_cons ?_ rest
    rintro rfl
    rw [hkeep] at hkept
    simp at hkept
  · exact decode_flatMap_escape_append _ rest

/-- An encoded text stands for the bytes of the text. -/
theorem decode_encode (hkeep : keep '%' = false) (cs : List Char) :
    decode (encode keep cs) = Utf8.encode cs := by
  induction cs with
  | nil => rfl
  | cons c rest ih =>
    rw [encode, List.flatMap_cons, decode_encodeChar_append hkeep, Utf8.encode, List.flatMap_cons]
    exact congrArg _ ih

theorem encode_injective (hkeep : keep '%' = false) : Function.Injective (encode keep) := by
  intro cs ds h
  have hbytes := congrArg decode h
  rw [decode_encode hkeep, decode_encode hkeep] at hbytes
  exact Utf8.encode_injective hbytes

end Percent

end FeedRelay.Text
