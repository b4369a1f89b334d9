import FeedRelay.Topic.Basic

/-!
# Topics with the same key

The key of a topic is its name with a suffix: its instance id behind a hyphen, if it has one. Names
and ids may hold hyphens themselves, so two topics may have the same key. This happens only if the
name of one goes on, behind a hyphen, with a beginning of the id of the other, and the rest of the
id is the suffix of the first (`Topic.RunsInto`). Topics whose names hold no hyphen have different
keys.
-/

namespace FeedRelay.Topic

/-- What stands behind the name in the key of a topic. -/
def suffix (t : Topic) : String :=
  match t.instanceId with
  | some id => "-" ++ id
  | none => ""

/-- The name of `u` is that of `t`, a hyphen and a beginning of the instance id of `t`, and the
rest of the id is the suffix of `u`. -/
def RunsInto (t u : Topic) : Prop :=
  ∃ id first, t.instanceId = some id ∧ u.name = t.name ++ "-" ++ first ∧ id = first ++ u.suffix

variable {t u : Topic}

theorem displayKey_eq (t : Topic) : t.displayKey = t.name ++ t.suffix := by
  unfold displayKey suffix
  cases t.instanceId with
  | some id => exact String.append_assoc ..
  | none => exact String.append_empty.symm

theorem suffix_inj : t.suffix = u.suffix ↔ t.instanceId = u.instanceId := by
  unfold suffix
  cases t.instanceId <;> cases u.instanceId <;> simp [← String.toList_inj]

/-- Two texts of two parts are equal if and only if one of the first parts begins the other, and
what is left of it begins the second part. -/
theorem append_eq_append_iff {a b c d : String} :
    a ++ b = c ++ d ↔
      (∃ e, c = a ++ e ∧ b = e ++ d) ∨ ∃ e, a = c ++ e ∧ d = e ++ b := by
  simp only [← String.toList_inj, String.toList_append, List.append_eq_append_iff]
  have hofList (p : List Char → Prop) : (∃ cs, p cs) ↔ ∃ e : String, p e.toList :=
    ⟨fun ⟨cs, h⟩ => ⟨String.ofList cs, by rwa [String.toList_ofList]⟩, fun ⟨e, h⟩ => ⟨_, h⟩⟩
  rw [hofList, hofList]

/-- A topic has its key in common with one whose name goes on only if its suffix goes on in the
same way, from the hyphen on. -/
theorem runsInto_of_append {e : String} (hname : u.name = t.name ++ e)
    (hsuffix : t.suffix = e ++ u.suffix)
    (hne : (t.name, t.instanceId) ≠ (u.name, u.instanceId)) : t.RunsInto u := by
  cases he : e.toList with
  | nil =>
    obtain rfl : e = "" := String.toList_inj.mp he
    rw [String.append_empty] at hname
    rw [String.empty_append, suffix_inj] at hsuffix
    exact absurd (by rw [hname, hsuffix]) hne
  | cons c rest =>
    cases hid : t.instanceId with
    | none =>
      rw [suffix, hid, ← String.toList_inj, String.toList_append, he] at hsuffix
      cases hsuffix
    | some id =>
      have hhyphen : "-".toList = ['-'] := rfl
      rw [suffix, hid, ← String.toList_inj, String.toList_append, String.toList_append, he,
        hhyphen, List.singleton_append, List.cons_append] at hsuffix
      obtain ⟨rfl, hrest⟩ := List.cons.inj hsuffix
      have hfirst : e = "-" ++ String.ofList rest := by
        rw [← String.toList_inj, he, String.toList_append]
        simp
      refine ⟨id, String.ofList rest, hid, by rw [hname, hfirst, String.append_assoc], ?_⟩
      rw [← String.toList_inj, String.toList_append, String.toList_ofList, hrest]

theorem RunsInto.displayKey_eq (h : t.RunsInto u) : t.displayKey = u.displayKey := by
  obtain ⟨id, first, hid, hname, rfl⟩ := h
  rw [Topic.displayKey_eq, Topic.displayKey_eq, hname, suffix, hid]
  simp only [String.append_assoc]

/-- Two topics have the same key if and only if one runs into the other. -/
theorem displayKey_eq_iff (hne : (t.name, t.instanceId) ≠ (u.name, u.instanceId)) :
    t.displayKey = u.displayKey ↔ t.RunsInto u ∨ u.RunsInto t := by
  constructor
  · intro h
    rw [displayKey_eq, displayKey_eq, append_eq_append_iff] at h
    rcases h with ⟨e, hname, hsuffix⟩ | ⟨e, hname, hsuffix⟩
    · exact Or.inl (runsInto_of_append hname hsuffix hne)
    · exact Or.inr (runsInto_of_append hname hsuffix hne.symm)
  · rintro (h | h)
    · exact h.displayKey_eq
    · exact h.displayKey_eq.symm

/-- Topics whose names hold no hyphen have different keys. -/
theorem displayKey_injective_of_no_hyphen (ht : '-' ∉ t.name.toList) (hu : '-' ∉ u.name.toList)
    (h : t.displayKey = u.displayKey) : t.name = u.name ∧ t.instanceId = u.instanceId := by
  have hno {t u : Topic} (hu : '-' ∉ u.name.toList) : ¬t.RunsInto u := by
    rintro ⟨id, first, -, hname, -⟩
    rw [hname] at hu
    simp at hu
  by_cases heq : (t.name, t.instanceId) = (u.name, u.instanceId)
  · exact Prod.mk.inj heq
  · rcases (displayKey_eq_iff heq).mp h with h | h
    · exact absurd h (hno hu)
    · exact absurd h (hno ht)

/-- A name with a hyphen in it and a name with an instance id may stand for the same key. -/
theorem displayKey_not_injective :
    ∃ t u, Topic.ofParts "a-b" none = .ok t ∧ Topic.ofParts "a" (some "b") = .ok u ∧
      (t.name, t.instanceId) ≠ (u.name, u.instanceId) ∧ t.displayKey = u.displayKey :=
  ⟨⟨"a-b", none, none, []⟩, ⟨"a", some "b", none, []⟩, by rfl, by rfl, by decide, by decide⟩

end FeedRelay.Topic
