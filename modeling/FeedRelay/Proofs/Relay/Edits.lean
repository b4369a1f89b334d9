import Mathlib.Data.Finset.Card
import Mathlib.Logic.Function.Basic
import FeedRelay.Proofs.Relay.Members

/-!
# A registry after some edits

All handles of a registry work on the same entries, so what it holds is told by the registrations
and removals that were made through any of them, in their order. They keep a table of entries under
ids: to register an endpoint sets the entry of its id, and to drop an id clears it. The registry
finds under an id what the table has there (`Registry.find?_editAll`). Each entry stands under the
id of its endpoint (`Registry.id_of_find?`), and there are as many entries as ids that have one
(`Registry.Sorted.exists_ids`).
-/

namespace FeedRelay.Registry

/-- What is done to a registry through a handle: an endpoint is registered, or an id is dropped. -/
inductive Edit where
  | add (e : Endpoint)
  | remove (id : String)
  deriving DecidableEq

/-- The registry after an edit. -/
def edit (r : Registry) : Edit → Registry
  | .add e => r.add e
  | .remove id => r.remove id

/-- The registry after some edits, one after another. -/
def editAll (r : Registry) (edits : List Edit) : Registry :=
  edits.foldl edit r

/-- Entries under ids. -/
abbrev Table := String → Option Endpoint

namespace Table

/-- No entries. -/
def empty : Table := fun _ => none

/-- The table after an edit: only the entry under one id changes. -/
def edit (table : Table) : Edit → Table
  | .add e => Function.update table e.id (some e)
  | .remove id => Function.update table id none

/-- The table after some edits, one after another. -/
def editAll (table : Table) (edits : List Edit) : Table :=
  edits.foldl edit table

end Table

variable {r : Registry} {e : Endpoint} {edits : List Edit}

theorem editAll_append (r : Registry) (edits more : List Edit) :
    r.editAll (edits ++ more) = (r.editAll edits).editAll more :=
  List.foldl_append

/-! ### What is found under an id -/

private theorem find?_insert (e : Endpoint) (list : List Endpoint) (id : String) :
    (insert e list).find? (·.id = id) =
      if id = e.id then some e else list.find? (·.id = id) := by
  fun_induction insert e list with
  | case1 =>
    by_cases hid : e.id = id
    · simp [hid]
    · simp [hid, Ne.symm hid]
  | case2 g rest heq =>
    by_cases hid : e.id = id
    · simp [hid]
    · have hg : g.id ≠ id := heq ▸ hid
      simp [hid, Ne.symm hid, hg]
  | case3 g rest hne hlt =>
    by_cases hid : e.id = id
    · simp [hid]
    · rw [List.find?_cons_of_neg (by simpa using hid), if_neg (Ne.symm hid)]
  | case4 g rest hne hle ih =>
    by_cases hg : g.id = id
    · have hid : id ≠ e.id := fun hid => hne (hid.symm.trans hg.symm)
      simp [hg, hid]
    · rw [List.find?_cons_of_neg (by simpa using hg), ih,
        List.find?_cons_of_neg (by simpa using hg)]

theorem find?_add (r : Registry) (e : Endpoint) :
    (r.add e).find? = Function.update r.find? e.id (some e) := by
  funext id
  rw [find?, add, find?_insert, Function.update_apply, find?]

theorem find?_remove (r : Registry) (id : String) :
    (r.remove id).find? = Function.update r.find? id none := by
  funext other
  rw [find?, remove, List.find?_filter, Function.update_apply, find?]
  by_cases hother : other = id
  · rw [if_pos hother, List.find?_eq_none]
    simp [hother]
  · rw [if_neg hother]
    refine congrArg (List.find? · _) (funext fun f => ?_)
    by_cases hf : f.id = other
    · simp [hf, hother]
    · simp [hf]

/-- A registry finds what a table has that is kept by the same edits. -/
theorem find?_editAll (r : Registry) (edits : List Edit) :
    (r.editAll edits).find? = Table.editAll r.find? edits := by
  induction edits generalizing r with
  | nil => rfl
  | cons edit rest ih =>
    have hedit : (r.edit edit).find? = Table.edit r.find? edit := by
      cases edit with
      | add e => exact r.find?_add e
      | remove id => exact r.find?_remove id
    change ((r.edit edit).editAll rest).find? = _
    rw [ih, hedit]
    rfl

/-- An entry stands under the id of its endpoint. -/
theorem id_of_find? {id : String} (h : r.find? id = some e) : e.id = id := by
  simpa using List.find?_some h

/-! ### Registries that were edited -/

theorem Sorted.editAll (h : r.Sorted) (edits : List Edit) : (r.editAll edits).Sorted := by
  induction edits generalizing r with
  | nil => exact h
  | cons edit rest ih =>
    refine ih (r := r.edit edit) ?_
    cases edit with
    | add e => exact h.add e
    | remove id => exact h.remove id

theorem sorted_edited (edits : List Edit) : (empty.editAll edits).Sorted :=
  sorted_empty.editAll edits

/-- The endpoints that are registered are those that are found under their ids. -/
theorem Sorted.mem_snapshot_iff (h : r.Sorted) : e ∈ r.snapshot ↔ r.find? e.id = some e :=
  ⟨h.find?_eq_some, fun he => List.mem_of_find?_eq_some he⟩

/-- There are as many endpoints as ids under which one is found. -/
theorem Sorted.exists_ids (h : r.Sorted) :
    ∃ ids : Finset String, (∀ id, id ∈ ids ↔ r.contains id = true) ∧ r.size = ids.card := by
  have hnodup : (r.snapshot.map (·.id)).Nodup :=
    (List.pairwise_map.mpr h).imp fun hlt => String.ne_of_lt hlt
  refine ⟨(r.snapshot.map (·.id)).toFinset, fun id => ?_, ?_⟩
  · rw [List.mem_toFinset, List.mem_map, contains_eq_true_iff]
  · rw [List.toFinset_card_of_nodup hnodup, List.length_map]
    rfl

end FeedRelay.Registry
