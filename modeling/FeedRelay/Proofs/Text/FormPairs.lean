import FeedRelay.Proofs.Text.Encoding
import FeedRelay.Text.Blank
import FeedRelay.Text.Form

/-!
# Reading form pairs back

Splitting a text undoes joining parts that do not hold the separator (`split_intercalate`). Neither
`&` nor `=` occurs in form-encoded text, so the pairs of a form are exactly those that were encoded
(`Form.decodePairs_encodePairs`). A text without blanks at its ends is trimmed as it stands
(`trim_of_ends`).
-/

namespace FeedRelay.Text

/-! ### Parts and separators -/

theorem split_eq_splitOn (sep : Char) (cs : List Char) : split sep cs = cs.splitOn sep := by
  induction cs with
  | nil => rfl
  | cons c rest ih =>
    rw [split, List.splitOn_cons_eq_if_modifyHead, ih]
    by_cases hsep : c = sep
    · simp [hsep]
    · rw [if_neg hsep, if_neg (by simpa using hsep)]
      cases hrest : rest.splitOn sep with
      | nil => exact absurd hrest (List.splitOn_ne_nil sep rest)
      | cons part parts => rfl

/-- Joined parts fall apart again if none of them holds the separator. -/
theorem split_intercalate {sep : Char} {parts : List (List Char)}
    (hsep : ∀ part ∈ parts, sep ∉ part) (hparts : parts ≠ []) :
    split sep (List.intercalate [sep] parts) = parts := by
  rw [split_eq_splitOn]
  exact List.splitOn_intercalate sep hsep hparts

/-! ### Blanks -/

theorem dropWhile_isBlank_of_head {cs : List Char}
    (h : ∀ c, cs.head? = some c → isBlank c = false) : cs.dropWhile isBlank = cs := by
  cases cs with
  | nil => rfl
  | cons c rest => rw [List.dropWhile_cons_of_neg (by simp [h c rfl])]

/-- A text without blanks at its ends stays as it is when it is trimmed. -/
theorem trim_of_ends {s : String} (hhead : ∀ c, s.toList.head? = some c → isBlank c = false)
    (hlast : ∀ c, s.toList.getLast? = some c → isBlank c = false) : trim s = s := by
  have hreverse : s.toList.reverse.dropWhile isBlank = s.toList.reverse :=
    dropWhile_isBlank_of_head fun c hc => hlast c (by rwa [List.head?_reverse] at hc)
  rw [trim, trimChars, dropWhile_isBlank_of_head hhead, trimRight, hreverse, List.reverse_reverse,
    String.ofList_toList]

theorem trim_trim (s : String) : trim (trim s) = trim s := by
  refine trim_of_ends (fun c hc => ?_) (fun c hc => ?_)
  · rw [trim, String.toList_ofList] at hc
    exact isBlank_of_head?_trimChars hc
  · rw [trim, String.toList_ofList] at hc
    exact isBlank_of_getLast?_trimChars hc

/-! ### Encoded names and values -/

namespace Form

/-- What stays as it is when blanks are no longer spelled as plus signs. -/
private def keepOrSpace (c : Char) : Bool :=
  keep c || c = ' '

private theorem keep_upper {n : Nat} (h : n < 16) : keep (Hex.upper n) = true := by
  interval_cases n <;> decide

/-- Escaped text consists of characters that are kept and of percent signs. -/
private theorem keep_of_mem_escape {b : UInt8} {x : Char} (h : x ∈ Percent.escape b) :
    keep x = true ∨ x = '%' := by
  have hb : b.toNat < 256 := b.toNat_lt
  simp only [Percent.escape, Hex.ofByte, List.mem_cons, List.not_mem_nil, or_false] at h
  rcases h with rfl | rfl | rfl
  · exact Or.inr rfl
  · exact Or.inl (keep_upper (by omega))
  · exact Or.inl (keep_upper (by omega))

private theorem keep_of_mem_encodeChar {c x : Char} (h : x ∈ Percent.encodeChar keep c) :
    keep x = true ∨ x = '%' := by
  unfold Percent.encodeChar at h
  split at h
  · rename_i hkept
    obtain rfl := List.mem_singleton.mp h
    exact Or.inl (Bool.and_eq_true_iff.mp hkept).2
  · obtain ⟨b, -, hx⟩ := List.mem_flatMap.mp h
    exact keep_of_mem_escape hx

/-- Encoded text consists of characters that are kept, percent signs and plus signs. -/
theorem keep_of_mem_encode {cs : List Char} {x : Char} (h : x ∈ encode cs) :
    keep x = true ∨ x = '%' ∨ x = '+' := by
  obtain ⟨c, -, hx⟩ := List.mem_flatMap.mp h
  split at hx
  · exact Or.inr (Or.inr (List.mem_singleton.mp hx))
  · exact (keep_of_mem_encodeChar hx).imp_right Or.inl

theorem amp_notMem_encode (cs : List Char) : '&' ∉ encode cs := fun h => by
  rcases keep_of_mem_encode h with h | h | h <;> exact absurd h (by decide)

theorem equals_notMem_encode (cs : List Char) : '=' ∉ encode cs := fun h => by
  rcases keep_of_mem_encode h with h | h | h <;> exact absurd h (by decide)

/-- An encoded text without its plus signs is the text with all but spaces escaped as before. -/
private theorem map_encode (cs : List Char) :
    (encode cs).map (fun c => if c = '+' then ' ' else c) = Percent.encode keepOrSpace cs := by
  rw [encode, Percent.encode, List.map_flatMap]
  refine congrArg (List.flatMap · cs) (funext fun c => ?_)
  by_cases hspace : c = ' '
  · subst hspace
    rfl
  · -- A plus sign is escaped itself, so those in the encoded text all stand for spaces.
    have hplain : ∀ x ∈ Percent.encodeChar keep c, (if x = '+' then ' ' else x) = x := by
      intro x hx
      rw [if_neg]
      rintro rfl
      rcases keep_of_mem_encodeChar hx with h | h <;> exact absurd h (by decide)
    have hkeep : Percent.encodeChar keepOrSpace c = Percent.encodeChar keep c := by
      simp [Percent.encodeChar, keepOrSpace, hspace]
    rw [if_neg hspace, hkeep]
    exact (List.map_congr_left hplain).trans (List.map_id _)

/-- An encoded name or value stands for itself. -/
theorem decode_encode (cs : List Char) : decode (encode cs) = cs := by
  rw [decode, map_encode, Percent.decode_encode (by decide), Utf8.decodeLossy_encode]

/-! ### Encoded pairs -/

theorem decodePair_encodePair (pair : String × String) : decodePair (encodePair pair) = pair := by
  have hname : ∀ c ∈ encode pair.1.toList, decide (c ≠ '=') = true := by
    intro c hc
    rw [decide_eq_true_eq]
    rintro rfl
    exact equals_notMem_encode _ hc
  simp only [decodePair, encodePair]
  rw [List.takeWhile_append_of_pos hname, List.dropWhile_append_of_pos hname,
    List.takeWhile_cons_of_neg (by simp), List.dropWhile_cons_of_neg (by simp), List.append_nil,
    List.drop_one, List.tail_cons, decode_encode, decode_encode, String.ofList_toList,
    String.ofList_toList]

/-- The pairs of a form are the encoded ones, in their order. -/
theorem decodePairs_encodePairs {pairs : List (String × String)} (h : pairs ≠ []) :
    decodePairs (encodePairs pairs) = pairs := by
  have hamp : ∀ text ∈ pairs.map encodePair, '&' ∉ text := by
    intro text htext
    obtain ⟨pair, -, rfl⟩ := List.mem_map.mp htext
    simp [encodePair, amp_notMem_encode]
  have hfull : ∀ text ∈ pairs.map encodePair, (!text.isEmpty) = true := by
    intro text htext
    obtain ⟨pair, -, rfl⟩ := List.mem_map.mp htext
    simp [encodePair]
  rw [decodePairs, encodePairs, String.toList_ofList, split_intercalate hamp (by simpa using h),
    List.filter_eq_self.mpr hfull, List.map_map]
  exact (List.map_congr_left fun pair _ => decodePair_encodePair pair).trans (List.map_id _)

end Form

end FeedRelay.Text
