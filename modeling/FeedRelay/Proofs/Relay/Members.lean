import FeedRelay.Relay.Registry

/-!
# The members of a registry

A registry that comes about by registrations and their ends holds its endpoints in the order of
their ids, so each id is registered once and a snapshot names no endpoint twice.
-/

namespace FeedRelay.Registry

/-- The endpoints stand in the order of their ids. -/
def Sorted (r : Registry) : Prop :=
  r.endpoints.Pairwise (·.id < ·.id)

variable {r : Registry} {e f : Endpoint} {list : List Endpoint}

theorem mem_of_mem_insert (h : f ∈ insert e list) : f = e ∨ f ∈ list := by
  induction list with
  | nil => exact Or.inl (List.mem_singleton.mp h)
  | cons g rest ih =>
    unfold insert at h
    split at h
    · exact (List.mem_cons.mp h).imp_right (List.mem_cons_of_mem _)
    · split at h
      · exact List.mem_cons.mp h
      · rcases List.mem_cons.mp h with rfl | h
        · exact Or.inr List.mem_cons_self
        · exact (ih h).imp_right (List.mem_cons_of_mem _)

theorem sorted_insert (h : list.Pairwise (·.id < ·.id)) :
    (insert e list).Pairwise (·.id < ·.id) := by
  induction list with
  | nil => exact .cons (by simp) .nil
  | cons g rest ih =>
    obtain ⟨hg, hrest⟩ := List.pairwise_cons.mp h
    unfold insert
    split
    · rename_i heq
      exact .cons (fun f hf => heq ▸ hg f hf) hrest
    · rename_i hne
      split
      · rename_i hlt
        refine .cons (fun f hf => ?_) h
        rcases List.mem_cons.mp hf with rfl | hf
        · exact hlt
        · exact String.lt_trans hlt (hg f hf)
      · rename_i hle
        refine .cons (fun f hf => ?_) (ih hrest)
        rcases mem_of_mem_insert hf with rfl | hf
        · refine String.not_le.mp fun hge => hne ?_
          exact String.le_antisymm hge (String.not_lt.mp hle)
        · exact hg f hf

theorem sorted_empty : empty.Sorted := .nil

theorem Sorted.add (h : r.Sorted) (e : Endpoint) : (r.add e).Sorted :=
  sorted_insert h

theorem Sorted.remove (h : r.Sorted) (id : String) : (r.remove id).Sorted :=
  h.filter _

/-- No endpoint is met twice. -/
theorem Sorted.nodup_snapshot (h : r.Sorted) : r.snapshot.Nodup := by
  refine List.Pairwise.imp ?_ h
  rintro e f hlt rfl
  exact String.lt_irrefl e.id hlt

theorem mem_snapshot_add (h : f ∈ (r.add e).snapshot) : f = e ∨ f ∈ r.snapshot :=
  mem_of_mem_insert h

theorem mem_snapshot_remove {id : String} (h : f ∈ (r.remove id).snapshot) : f ∈ r.snapshot :=
  (List.mem_filter.mp h).1

theorem mem_snapshot_remove_iff {id : String} :
    f ∈ (r.remove id).snapshot ↔ f ∈ r.snapshot ∧ f.id ≠ id := by
  rw [snapshot, remove, List.mem_filter, decide_eq_true_iff, snapshot]

/-- To drop an id that nobody has changes nothing. -/
theorem remove_eq_self {id : String} (h : ∀ f ∈ r.snapshot, f.id ≠ id) : r.remove id = r := by
  have hkeep : r.endpoints.filter (·.id ≠ id) = r.endpoints :=
    List.filter_eq_self.mpr fun f hf => decide_eq_true (h f hf)
  rw [remove, hkeep]

theorem mem_insert_self (e : Endpoint) (list : List Endpoint) : e ∈ insert e list := by
  fun_induction insert e list <;> simp_all

theorem mem_insert_of_mem (h : f ∈ list) (hid : f.id ≠ e.id) : f ∈ insert e list := by
  fun_induction insert e list with
  | case1 => cases h
  | case2 g rest heq =>
    rcases List.mem_cons.mp h with rfl | h
    · exact absurd heq.symm hid
    · exact List.mem_cons_of_mem _ h
  | case3 g rest hne hlt => exact List.mem_cons_of_mem _ h
  | case4 g rest hne hle ih =>
    rcases List.mem_cons.mp h with rfl | h
    · exact List.mem_cons_self
    · exact List.mem_cons_of_mem _ (ih h)

/-- An endpoint whose id nobody has comes to those that are there. -/
theorem mem_snapshot_add_iff (h : ∀ f ∈ r.snapshot, f.id ≠ e.id) :
    f ∈ (r.add e).snapshot ↔ f = e ∨ f ∈ r.snapshot := by
  refine ⟨mem_snapshot_add, ?_⟩
  rintro (rfl | hf)
  · exact mem_insert_self f r.endpoints
  · exact mem_insert_of_mem hf (h f hf)

/-- An endpoint that is registered is found under its id. -/
theorem Sorted.find?_eq_some (h : r.Sorted) (he : e ∈ r.snapshot) : r.find? e.id = some e := by
  obtain ⟨endpoints⟩ := r
  unfold find?
  induction endpoints with
  | nil => cases he
  | cons g rest ih =>
    obtain ⟨hg, hrest⟩ := List.pairwise_cons.mp h
    rcases List.mem_cons.mp he with rfl | he
    · exact List.find?_cons_of_pos (decide_eq_true rfl)
    · have hne : g.id ≠ e.id := String.ne_of_lt (hg e he)
      rw [List.find?_cons_of_neg (by simpa using hne)]
      exact ih hrest he

theorem contains_eq_true_iff {id : String} :
    r.contains id = true ↔ ∃ e ∈ r.snapshot, e.id = id := by
  rw [contains, find?, List.find?_isSome]
  simp [snapshot]

end FeedRelay.Registry
