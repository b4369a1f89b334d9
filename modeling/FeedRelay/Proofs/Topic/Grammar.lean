import FeedRelay.Proofs.Topic.Address

/-!
# The texts that topics are read from

The parts of a text are what stands between its slashes, without the blanks around it
(`Topic.partsOf`). A topic is read from a text exactly if there is one slash at most and no part is
empty or a dot segment (`Topic.Names`), and then the parts of the text name the topic. The text of a
topic has the parts of the topic again, so it reads back as the topic, and two topics with the same
text are named alike.

## Main results

* `Topic.parse_eq_ok_iff`: which texts are read, and as what.
* `Topic.text_reads_back`: this, and that reading undoes writing.
-/

namespace FeedRelay

namespace Text

/-- What stands before and behind the first separator, if there is one. -/
theorem splitOnce_eq_some {sep : Char} {cs before after : List Char}
    (h : splitOnce sep cs = some (before, after)) :
    cs = before ++ sep :: after ∧ sep ∉ before := by
  induction cs generalizing before with
  | nil => cases h
  | cons c rest ih =>
    unfold splitOnce at h
    split at h
    · rename_i hsep
      obtain ⟨rfl, rfl⟩ := Prod.mk.inj (Option.some.inj h)
      exact ⟨by rw [hsep]; rfl, List.not_mem_nil⟩
    · rename_i hsep
      obtain ⟨⟨first, _⟩, hrest, heq⟩ := Option.map_eq_some_iff.mp h
      obtain ⟨rfl, rfl⟩ := Prod.mk.inj heq
      obtain ⟨rfl, hfirst⟩ := ih hrest
      exact ⟨rfl, by simp [Ne.symm hsep, hfirst]⟩

theorem splitOnce_eq_none {sep : Char} {cs : List Char} (h : splitOnce sep cs = none) :
    sep ∉ cs := by
  induction cs with
  | nil => exact List.not_mem_nil
  | cons c rest ih =>
    unfold splitOnce at h
    split at h
    · cases h
    · rename_i hsep
      simp [Ne.symm hsep, ih (Option.map_eq_none_iff.mp h)]

/-- There is one part more than there are separators. -/
theorem length_splitOn (sep : Char) (cs : List Char) :
    (cs.splitOn sep).length = cs.count sep + 1 := by
  induction cs with
  | nil => rfl
  | cons c rest ih =>
    rw [List.splitOn_cons_eq_if_modifyHead, List.count_cons]
    by_cases hsep : c = sep
    · simp [hsep, ih]
    · simp [hsep, ih]

/-- Trimming takes away nothing but blanks. -/
theorem mem_trim {s : String} {c : Char} (hc : isBlank c = false) :
    c ∈ (trim s).toList ↔ c ∈ s.toList := by
  have hdrop (cs : List Char) : c ∈ cs.dropWhile isBlank ↔ c ∈ cs := by
    refine ⟨fun h => (List.dropWhile_sublist _).mem h, fun h => ?_⟩
    rw [← List.takeWhile_append_dropWhile (p := isBlank) (l := cs), List.mem_append] at h
    refine h.resolve_left fun htake => ?_
    rw [List.mem_takeWhile_imp htake] at hc
    cases hc
  rw [trim, String.toList_ofList, trimChars, trimRight, List.mem_reverse, hdrop, List.mem_reverse,
    hdrop]

end Text

namespace Topic

/-- The parts of a text: what stands between its slashes, without the blanks around it. -/
def partsOf (text : String) : List String :=
  (text.toList.splitOn '/').map fun part => Text.trim (String.ofList part)

/-- A text names a topic: it has one slash at most, and no part is empty or a dot segment. -/
structure Names (text : String) : Prop where
  slashes_le : text.toList.count '/' ≤ 1
  plain : ∀ part ∈ partsOf text, part ≠ "" ∧ part ≠ "." ∧ part ≠ ".."

variable {t u : Topic} {part : Part} {text value : String}

/-! ### Parts that are read -/

/-- A text without its blanks is a part unless it is empty, holds a slash or is a dot segment. -/
theorem isPart_trim_iff : IsPart (Text.trim text) ↔
    '/' ∉ text.toList ∧ Text.trim text ≠ "" ∧ Text.trim text ≠ "." ∧ Text.trim text ≠ ".." := by
  rw [← Text.mem_trim (s := text) (c := '/') (by decide)]
  refine ⟨fun h => ⟨h.slash_notMem, h.ne_empty, h.ne_here, h.ne_up⟩, fun ⟨hslash, h⟩ => ?_⟩
  refine ⟨h.1, hslash, h.2.1, h.2.2, fun c hc => ?_, fun c hc => ?_⟩
  · rw [Text.trim, String.toList_ofList] at hc
    exact Text.isBlank_of_head?_trimChars hc
  · rw [Text.trim, String.toList_ofList] at hc
    exact Text.isBlank_of_getLast?_trimChars hc

/-- A part is read from a text if the text without its blanks is one. -/
theorem readPart_eq_ok_iff :
    readPart part text = .ok value ↔ IsPart (Text.trim text) ∧ value = Text.trim text := by
  have htrim : readPart part (Text.trim text) = readPart part text := by
    rw [readPart, Text.trim_trim, readPart]
  constructor
  · intro h
    have hvalue : IsPart value := isPart_of_readPart h
    unfold readPart checkPart at h
    split_ifs at h
    obtain rfl := Except.ok.inj h
    exact ⟨hvalue, rfl⟩
  · rintro ⟨h, rfl⟩
    rw [← htrim, readPart_of_isPart part h]

theorem parts_inj : t.parts = u.parts ↔ t.name = u.name ∧ t.instanceId = u.instanceId := by
  rw [parts, parts, List.cons.injEq, and_congr_right_iff]
  intro _
  cases t.instanceId <;> cases u.instanceId <;> simp

/-- A topic is made of texts if each of them without its blanks is a part, and these parts name
it. -/
theorem ofParts_eq_ok_iff {name : String} {instanceId : Option String} :
    ofParts name instanceId = .ok t ↔
      (∀ text ∈ name :: instanceId.toList, IsPart (Text.trim text)) ∧
      t.parts = (name :: instanceId.toList).map Text.trim ∧ t.query = none ∧ t.fields = [] := by
  constructor
  · intro h
    obtain ⟨first, hname, h⟩ := exists_of_bind_eq_ok h
    obtain ⟨hfirst, rfl⟩ := readPart_eq_ok_iff.mp hname
    cases instanceId with
    | none =>
      cases h
      exact ⟨by simpa using hfirst, rfl, rfl, rfl⟩
    | some id =>
      obtain ⟨second, hid, h⟩ := exists_of_bind_eq_ok h
      obtain ⟨hsecond, rfl⟩ := readPart_eq_ok_iff.mp hid
      cases h
      exact ⟨by simpa using ⟨hfirst, hsecond⟩, rfl, rfl, rfl⟩
  · rintro ⟨hall, hparts, hquery, hfields⟩
    have hname : readPart .name name = .ok (Text.trim name) :=
      readPart_eq_ok_iff.mpr ⟨hall name List.mem_cons_self, rfl⟩
    obtain ⟨tname, tid, _, _⟩ := t
    obtain rfl : _ = none := hquery
    obtain rfl : _ = [] := hfields
    rw [ofParts, hname]
    cases instanceId with
    | none =>
      obtain ⟨rfl, hid⟩ := List.cons.inj hparts
      obtain rfl : tid = none := Option.toList_eq_nil_iff.mp hid
      rfl
    | some id =>
      have hid : readPart .instanceId id = .ok (Text.trim id) :=
        readPart_eq_ok_iff.mpr ⟨hall id (by simp), rfl⟩
      obtain ⟨rfl, hid'⟩ := List.cons.inj hparts
      obtain rfl : tid = some (Text.trim id) := by cases tid <;> simp_all
      simp only [bind, Except.bind, hid]
      rfl

/-! ### Texts that are read -/

theorem length_partsOf (text : String) : (partsOf text).length = text.toList.count '/' + 1 := by
  rw [partsOf, List.length_map, Text.length_splitOn]

/-- One or two texts are the parts of some topic of which nothing else is asked. -/
theorem exists_parts_eq {list : List String} (hpos : list ≠ []) (hle : list.length ≤ 2) :
    ∃ t : Topic, t.parts = list ∧ t.query = none ∧ t.fields = [] := by
  match list with
  | [] => exact absurd rfl hpos
  | [name] => exact ⟨⟨name, none, none, []⟩, rfl, rfl, rfl⟩
  | [name, id] => exact ⟨⟨name, some id, none, []⟩, rfl, rfl, rfl⟩
  | _ :: _ :: _ :: rest =>
    simp only [List.length_cons] at hle
    omega

/-- The parts of texts that were joined by slashes are these texts without their blanks. -/
theorem partsOf_of_joined {pieces : List String} (hpieces : pieces ≠ [])
    (hslash : ∀ piece ∈ pieces, '/' ∉ piece.toList)
    (htext : text.toList = List.intercalate ['/'] (pieces.map String.toList)) :
    partsOf text = pieces.map Text.trim := by
  rw [partsOf, htext, List.splitOn_intercalate '/' (by simpa using hslash) (by simpa using hpieces),
    List.map_map]
  exact List.map_congr_left fun piece _ => congrArg Text.trim String.ofList_toList

/-- A text of one or two pieces names a topic if the pieces without their blanks are parts. -/
theorem names_iff_of_joined {pieces : List String} (hslash : ∀ piece ∈ pieces, '/' ∉ piece.toList)
    (hparts : partsOf text = pieces.map Text.trim) (hcount : text.toList.count '/' ≤ 1) :
    Names text ↔ ∀ piece ∈ pieces, IsPart (Text.trim piece) := by
  have hplain : Names text ↔ ∀ part ∈ partsOf text, part ≠ "" ∧ part ≠ "." ∧ part ≠ ".." :=
    ⟨fun h => h.plain, fun h => ⟨hcount, h⟩⟩
  rw [hplain, hparts, List.forall_mem_map]
  refine forall₂_congr fun piece hpiece => ?_
  rw [isPart_trim_iff, and_iff_right (hslash piece hpiece)]

/-- A topic is read from a text that names one, and the parts of the text name it. -/
theorem parse_eq_ok_iff : parse text = .ok t ↔
    Names text ∧ t.parts = partsOf text ∧ t.query = none ∧ t.fields = [] := by
  -- The cases are those of the first slash of the text.
  unfold parse
  split
  · rename_i before after hsplit
    obtain ⟨htext, hbefore⟩ := Text.splitOnce_eq_some hsplit
    have hcount : text.toList.count '/' = after.count '/' + 1 := by
      rw [htext, List.count_append, List.count_eq_zero_of_not_mem hbefore, List.count_cons_self,
        Nat.zero_add]
    rw [ofParts_eq_ok_iff, Option.toList_some]
    by_cases hafter : '/' ∈ after
    · have hlt : 0 < after.count '/' := List.count_pos_iff.mpr hafter
      refine iff_of_false (fun h => ?_) fun h => ?_
      · have hpart := isPart_trim_iff.mp (h.1 (String.ofList after) (by simp))
        rw [String.toList_ofList] at hpart
        exact hpart.1 hafter
      · have hle := h.1.slashes_le
        omega
    · have hslash : ∀ piece ∈ [String.ofList before, String.ofList after], '/' ∉ piece.toList := by
        simpa using ⟨hbefore, hafter⟩
      have hparts : partsOf text =
          [String.ofList before, String.ofList after].map Text.trim :=
        partsOf_of_joined (by simp) hslash (by simp [htext, List.intercalate])
      have hone : text.toList.count '/' ≤ 1 := by
        rw [hcount, List.count_eq_zero_of_not_mem hafter]
      rw [← names_iff_of_joined hslash hparts hone, hparts]
  · rename_i hsplit
    have htext : '/' ∉ text.toList := Text.splitOnce_eq_none hsplit
    have hslash : ∀ piece ∈ [text], '/' ∉ piece.toList := by simpa using htext
    have hparts : partsOf text = [text].map Text.trim :=
      partsOf_of_joined (by simp) hslash (by simp)
    have hnone : text.toList.count '/' ≤ 1 := by
      rw [List.count_eq_zero_of_not_mem htext]
      exact Nat.zero_le 1
    rw [ofParts_eq_ok_iff, Option.toList_none, ← names_iff_of_joined hslash hparts hnone, hparts]

/-! ### Texts of topics -/

theorem toList_resourcePath (t : Topic) :
    t.resourcePath.toList = List.intercalate ['/'] (t.parts.map String.toList) := by
  unfold resourcePath parts
  cases t.instanceId <;> simp [List.intercalate]

/-- The text of a topic has the parts of the topic. -/
theorem partsOf_resourcePath (h : ∀ part ∈ t.parts, IsPart part) :
    partsOf t.resourcePath = t.parts := by
  rw [partsOf_of_joined (by simp [parts]) (fun part hpart => (h part hpart).slash_notMem)
    (toList_resourcePath t)]
  exact (List.map_congr_left fun part hpart =>
    Text.trim_of_ends (h part hpart).head (h part hpart).last).trans (List.map_id _)

/-- The text of a topic is read as the topic, without what is asked of it. -/
theorem parse_resourcePath (h : ∀ part ∈ t.parts, IsPart part) :
    parse t.resourcePath =
      .ok { name := t.name, instanceId := t.instanceId, query := none, fields := [] } := by
  have hparts := partsOf_resourcePath h
  refine parse_eq_ok_iff.mpr ⟨⟨?slashes, fun part hpart => ?plain⟩, hparts.symm, rfl, rfl⟩
  case slashes =>
    have hnone {part : String} (hpart : part ∈ t.parts) : part.toList.count '/' = 0 :=
      List.count_eq_zero_of_not_mem (h part hpart).slash_notMem
    have hname := hnone List.mem_cons_self
    rw [toList_resourcePath]
    cases hid : t.instanceId with
    | none => simp [parts, hid, hname]
    | some id =>
      have hmem : id ∈ t.parts := by simp [parts, hid]
      simp [parts, hid, hname, hnone hmem, List.intercalate]
  case plain =>
    rw [hparts] at hpart
    exact ⟨(h part hpart).ne_empty, (h part hpart).ne_here, (h part hpart).ne_up⟩

/-- **Reading and writing topics.** A topic is read from a text exactly if the text names one, and
the parts of the text are then the name and the instance id of the topic, of which nothing else is
asked. A topic that was made of texts has a text from which it is read, and it is made again of its
own name and instance id. Accepted topics with the same text have the same name and instance id. -/
theorem text_reads_back :
    (∀ text, (∃ t, parse text = .ok t) ↔ Names text) ∧
    (∀ text t, parse text = .ok t → t.parts = partsOf text ∧ t.query = none ∧ t.fields = []) ∧
    (∀ name instanceId t, ofParts name instanceId = .ok t →
      parse t.resourcePath = .ok t ∧ ofParts t.name t.instanceId = .ok t) ∧
    (∀ t u : Topic, t.Accepted → u.Accepted → t.resourcePath = u.resourcePath →
      t.name = u.name ∧ t.instanceId = u.instanceId) := by
  refine ⟨fun text => ⟨fun ⟨t, h⟩ => (parse_eq_ok_iff.mp h).1, fun h => ?accepts⟩,
    fun text t h => (parse_eq_ok_iff.mp h).2, fun name instanceId t h => ?returns,
    fun t u ht hu h => ?apart⟩
  case accepts =>
    have hlength := length_partsOf text
    have hpos : partsOf text ≠ [] := List.length_pos_iff.mp (by omega)
    have hle : (partsOf text).length ≤ 2 := hlength ▸ Nat.succ_le_succ h.slashes_le
    obtain ⟨t, ht⟩ := exists_parts_eq hpos hle
    exact ⟨t, parse_eq_ok_iff.mpr ⟨h, ht⟩⟩
  case returns =>
    have hparts := isPart_of_ofParts h
    have hplain := eq_of_ofParts h
    rw [parse_resourcePath hparts, ofParts_of_isPart hparts, ← hplain]
    exact ⟨rfl, rfl⟩
  case apart =>
    rw [← parts_inj, ← partsOf_resourcePath ht.isPart, ← partsOf_resourcePath hu.isPart, h]

/-- A text with blanks of several kinds in it, and one with a slash too many. -/
theorem text_reads_back_of_blanks :
    ∃ t u, parse "\u2003a.b /\t.. x\n" = .ok t ∧ t.parts = ["a.b", ".. x"] ∧
      ofParts "a.b" (some " .. x") = .ok u ∧ parse u.resourcePath = .ok u ∧
      t.resourcePath = u.resourcePath ∧ t.name = u.name ∧ t.instanceId = u.instanceId ∧
      ¬Names "a/b/c" := by
  have hparse : parse "\u2003a.b /\t.. x\n" = .ok ⟨"a.b", some ".. x", none, []⟩ := by rfl
  have hmade : ofParts "a.b" (some " .. x") = .ok ⟨"a.b", some ".. x", none, []⟩ := by rfl
  obtain ⟨hreads, hnamed, hreturns, hapart⟩ := text_reads_back
  obtain ⟨hname, hid⟩ := hapart _ _ (.parse hparse) (.ofParts hmade) rfl
  refine ⟨_, _, hparse, (hnamed _ _ hparse).1.trans (by rfl), hmade, (hreturns _ _ _ hmade).1, rfl,
    hname, hid, fun h => ?_⟩
  obtain ⟨t, ht⟩ := (hreads _).mpr h
  have hfault : parse "a/b/c" = .error (.slashInPart .instanceId "b/c") := by rfl
  rw [hfault] at ht
  cases ht

end Topic

end FeedRelay
