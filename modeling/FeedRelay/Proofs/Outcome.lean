/-!
# Steps that may fail

A step that works on the result of another one succeeds only if the other one does, and steps that
come one after another fail if one of them does.
-/

namespace FeedRelay

variable {ε α β : Type} {x : Except ε α} {b : β}

/-- Two steps that succeed one after the other succeed each. -/
theorem exists_of_bind_eq_ok {f : α → Except ε β} (h : x >>= f = .ok b) :
    ∃ a, x = .ok a ∧ f a = .ok b := by
  cases x with
  | error e => cases h
  | ok a => exact ⟨a, rfl, h⟩

theorem exists_of_map_eq_ok {f : α → β} (h : x.map f = .ok b) : ∃ a, x = .ok a ∧ f a = b := by
  cases x with
  | error e => cases h
  | ok a => exact ⟨a, rfl, Except.ok.inj h⟩

/-- Two steps one after the other succeed if the first one does and the second one with what the
first one gives. -/
theorem bind_eq_ok_iff {f : α → Except ε β} : x >>= f = .ok b ↔ ∃ a, x = .ok a ∧ f a = .ok b := by
  refine ⟨exists_of_bind_eq_ok, ?_⟩
  rintro ⟨a, rfl, h⟩
  exact h

/-- A step succeeds whatever its fault would be called. -/
theorem mapError_eq_ok_iff {ε' : Type} {g : ε → ε'} {a : α} :
    x.mapError g = .ok a ↔ x = .ok a := by
  cases x with
  | error e => exact ⟨nofun, nofun⟩
  | ok b => exact ⟨fun h => congrArg _ (Except.ok.inj h), fun h => congrArg _ (Except.ok.inj h)⟩

theorem mapError_mapError {ε' ε'' : Type} {f : ε → ε'} {g : ε' → ε''} :
    (x.mapError f).mapError g = x.mapError fun e => g (f e) := by
  cases x <;> rfl

theorem eq_ok_of_toOption {a : α} (h : x.toOption = some a) : x = .ok a := by
  cases x with
  | error e => cases h
  | ok a => exact congrArg _ (Option.some.inj h)

/-- A step fails. -/
def Fails (x : Except ε α) : Prop :=
  ∃ e, x = .error e

@[simp] theorem fails_error (e : ε) : Fails (.error e : Except ε α) := ⟨e, rfl⟩

@[simp] theorem not_fails_ok (a : α) : ¬Fails (.ok a : Except ε α) := nofun

theorem fails_of_toOption (h : x.toOption = none) : Fails x := by
  cases x with
  | error e => exact fails_error e
  | ok a => cases h

theorem exists_ok_of_not_fails (h : ¬Fails x) : ∃ a, x = .ok a := by
  cases x with
  | error e => exact absurd (fails_error e) h
  | ok a => exact ⟨a, rfl⟩

/-- Two steps one after the other fail if one of them does, where the second one fails whatever the
first one gives or never. -/
theorem fails_bind_iff {f : α → Except ε β} {p : Prop} (h : ∀ a, Fails (f a) ↔ p) :
    Fails (x >>= f) ↔ Fails x ∨ p := by
  cases x with
  | error e => exact iff_of_true ⟨e, rfl⟩ (.inl ⟨e, rfl⟩)
  | ok a => exact (h a).trans (or_iff_right (not_fails_ok a)).symm

@[simp] theorem fails_mapError_iff {g : ε → β} : Fails (x.mapError g) ↔ Fails x := by
  cases x with
  | error e => exact iff_of_true ⟨_, rfl⟩ ⟨e, rfl⟩
  | ok a => exact iff_of_false nofun nofun

/-- The steps for the entries of a list fail if that for one of them does. -/
theorem fails_mapM_iff {f : α → Except ε β} {list : List α} :
    Fails (list.mapM f) ↔ ∃ a ∈ list, Fails (f a) := by
  induction list with
  | nil => exact iff_of_false nofun (by simp)
  | cons a rest ih =>
    simp only [List.mapM_cons, List.mem_cons, exists_eq_or_imp, ← ih]
    cases ha : f a with
    | error e => exact iff_of_true ⟨e, rfl⟩ (.inl ⟨e, rfl⟩)
    | ok b =>
      cases hrest : rest.mapM f with
      | error e => exact iff_of_true ⟨e, rfl⟩ (.inr ⟨e, rfl⟩)
      | ok bs => exact iff_of_false nofun (by simp)

end FeedRelay
