import Mathlib.Data.List.Induction

/-!
# Runs of machines

A machine goes from state to state by moves that its environment chooses. In a given state a move
may be impossible; a move that is made leaves notes. A run is a list of moves each of which is
possible where it is made, and its notes are those of its moves, one after another. What holds
before the first move and is kept by every further one holds after the run
(`Machine.run_induction`). What a machine can do move by move, another can do in a whole run
(`Machine.run_simulated`, `Machine.run_map`). One who sees each move with the states before and
after it sees something along the run (`Machine.observed`). Machines number what they make by its
place in a list, which grows at its end (`getElem?_concat_eq_some`) or changes at one place
(`getElem?_set_eq_some`).
-/

namespace FeedRelay

/-- What a list with one more at its end holds at a place is what it held there, or the last one. -/
theorem getElem?_concat_eq_some {α : Type} {list : List α} {a b : α} {n : Nat} :
    (list ++ [a])[n]? = some b ↔ list[n]? = some b ∨ n = list.length ∧ a = b := by
  rcases Nat.lt_trichotomy n list.length with hlt | rfl | hgt
  · rw [List.getElem?_append_left hlt]
    exact ⟨Or.inl, fun h => h.resolve_right fun h => Nat.ne_of_lt hlt h.1⟩
  · rw [List.getElem?_concat_length, List.getElem?_eq_none (Nat.le_refl _), Option.some.injEq]
    simp
  · rw [List.getElem?_eq_none (by rw [List.length_append]; exact hgt),
      List.getElem?_eq_none (Nat.le_of_lt hgt)]
    simp [Nat.ne_of_gt hgt]

theorem getElem?_eq_none_of_concat {α : Type} {list : List α} {a : α} {n : Nat}
    (h : (list ++ [a])[n]? = none) : list[n]? = none := by
  rw [List.getElem?_eq_none_iff] at h ⊢
  rw [List.length_append] at h
  omega

/-- What a list with a change at one place holds is the change there, and elsewhere what it held. -/
theorem getElem?_set_eq_some {α : Type} {list : List α} {a b : α} {m n : Nat}
    (h : (list.set n a)[m]? = some b) : n = m ∧ a = b ∨ n ≠ m ∧ list[m]? = some b := by
  rw [List.getElem?_set] at h
  by_cases hnm : n = m
  · rw [if_pos hnm] at h
    obtain ⟨-, heq⟩ := Option.ite_none_right_eq_some.mp h
    exact Or.inl ⟨hnm, Option.some.inj heq⟩
  · rw [if_neg hnm] at h
    exact Or.inr ⟨hnm, h⟩

/-- A machine: the state that a move leads to from a state and the notes that it leaves, or `none`
if the move is impossible there. -/
abbrev Machine (S M N : Type) : Type := S → M → Option (S × List N)

namespace Machine

variable {S M N : Type} (machine : Machine S M N)

/-- The state after some moves, with all notes; `none` if one of the moves is impossible. -/
def run (s : S) : List M → Option (S × List N)
  | [] => some (s, [])
  | move :: rest =>
    (machine s move).bind fun (t, notes) =>
      (run t rest).map fun (u, more) => (u, notes ++ more)

@[simp] theorem run_nil (s : S) : machine.run s [] = some (s, []) := rfl

/-- A run of two parts is a run of the first and, from where that leads, a run of the second. -/
theorem run_append_eq_some {s u : S} {moves later : List M} {all : List N} :
    machine.run s (moves ++ later) = some (u, all) ↔
      ∃ t notes more, machine.run s moves = some (t, notes) ∧
        machine.run t later = some (u, more) ∧ all = notes ++ more := by
  induction moves generalizing s all with
  | nil => simp
  | cons move rest ih =>
    simp only [List.cons_append, run, Option.bind_eq_some_iff, Option.map_eq_some_iff,
      Prod.exists, Prod.mk.injEq]
    constructor
    · rintro ⟨t, notes, hstep, v, more, hrun, rfl, rfl⟩
      obtain ⟨w, first, second, hfirst, hsecond, rfl⟩ := ih.mp hrun
      exact ⟨w, notes ++ first, second, ⟨t, notes, hstep, w, first, hfirst, rfl, rfl⟩, hsecond,
        by rw [List.append_assoc]⟩
    · rintro ⟨w, first, second, ⟨t, notes, hstep, v, more, hrun, rfl, rfl⟩, hsecond, rfl⟩
      exact ⟨t, notes, hstep, u, more ++ second, ih.mpr ⟨v, more, second, hrun, hsecond, rfl⟩, rfl,
        by rw [List.append_assoc]⟩

/-- Two runs, one where the other leads, make a run. -/
theorem run_append {s t u : S} {moves later : List M} {notes more : List N}
    (h : machine.run s moves = some (t, notes)) (hl : machine.run t later = some (u, more)) :
    machine.run s (moves ++ later) = some (u, notes ++ more) :=
  machine.run_append_eq_some.mpr ⟨t, notes, more, h, hl, rfl⟩

/-- A single move makes a run. -/
theorem run_singleton {s t : S} {move : M} {notes : List N} :
    machine.run s [move] = some (t, notes) ↔ machine s move = some (t, notes) := by
  cases hstep : machine s move <;> simp [run, hstep, Prod.ext_iff]

/-- A run that begins with a move is the move and, from where it leads, a run. -/
theorem run_cons_eq_some {s u : S} {move : M} {rest : List M} {all : List N} :
    machine.run s (move :: rest) = some (u, all) ↔
      ∃ t notes more, machine s move = some (t, notes) ∧ machine.run t rest = some (u, more) ∧
        all = notes ++ more := by
  rw [← List.singleton_append, run_append_eq_some]
  simp only [run_singleton]

variable {machine} in
/-- What holds before the first move, and is kept by each move that comes after others, holds
after every run. -/
theorem run_induction {s : S} {motive : List M → S → List N → Prop} (start : motive [] s [])
    (next : ∀ {moves t notes move u more}, machine.run s moves = some (t, notes) →
      motive moves t notes → machine t move = some (u, more) →
      motive (moves ++ [move]) u (notes ++ more))
    {moves : List M} {t : S} {notes : List N} (h : machine.run s moves = some (t, notes)) :
    motive moves t notes := by
  -- The induction is on the last move: the motive speaks of everything that came before.
  induction moves using List.reverseRecOn generalizing t notes with
  | nil =>
    cases h
    exact start
  | append_singleton moves move ih =>
    obtain ⟨r, first, more, hfirst, hlast, rfl⟩ := machine.run_append_eq_some.mp h
    exact next hfirst (ih hfirst) (machine.run_singleton.mp hlast)

section Simulation

variable {S' M' N' : Type} {machine : Machine S M N} {machine' : Machine S' M' N'} {f : S → S'}

/-- What a machine can do move by move, another that makes several moves or none for each of them
can do in a run. -/
theorem run_simulated {g : M → List M'} {k : N → List N'}
    (hstep : ∀ {s move t notes}, machine s move = some (t, notes) →
      machine'.run (f s) (g move) = some (f t, notes.flatMap k))
    {s t : S} {moves : List M} {notes : List N} (h : machine.run s moves = some (t, notes)) :
    machine'.run (f s) (moves.flatMap g) = some (f t, notes.flatMap k) := by
  refine run_induction (motive := fun moves t notes =>
    machine'.run (f s) (moves.flatMap g) = some (f t, notes.flatMap k)) rfl ?_ h
  intro moves t notes move u more _ hrun hmove
  rw [List.flatMap_append, List.flatMap_singleton, List.flatMap_append]
  exact machine'.run_append hrun (hstep hmove)

/-- What a machine does move by move, up to names, another does in a run, up to names. -/
theorem run_map {g : M → M'} {k : N → N'}
    (hstep : ∀ s move, machine' (f s) (g move) = (machine s move).map (Prod.map f (List.map k)))
    (s : S) (moves : List M) :
    machine'.run (f s) (moves.map g) = (machine.run s moves).map (Prod.map f (List.map k)) := by
  induction moves generalizing s with
  | nil => rfl
  | cons move rest ih =>
    simp only [List.map_cons, run, hstep]
    cases machine s move with
    | none => rfl
    | some next =>
      simp only [Option.map_some, Option.bind_some, Prod.map_fst, Prod.map_snd, ih, Option.map_map]
      congr 1
      funext last
      simp

end Simulation

/-- What can be seen along a run by one who sees each move with the states before and after it. -/
def observed {A : Type} (look : S → M → S → List A) (s : S) : List M → List A
  | [] => []
  | move :: rest =>
    match machine s move with
    | some (t, _) => look s move t ++ observed look t rest
    | none => []

variable {machine} in
/-- The last move of a run is seen behind what came before. -/
theorem observed_concat {A : Type} (look : S → M → S → List A) {s t u : S} {moves : List M}
    {move : M} {notes more : List N} (h : machine.run s moves = some (t, notes))
    (hstep : machine t move = some (u, more)) :
    machine.observed look s (moves ++ [move]) =
      machine.observed look s moves ++ look t move u := by
  induction moves generalizing s notes with
  | nil =>
    cases h
    simp [observed, hstep]
  | cons first rest ih =>
    obtain ⟨⟨r, seen⟩, hfirst, h⟩ := Option.bind_eq_some_iff.mp h
    obtain ⟨⟨_, later⟩, hrest, heq⟩ := Option.map_eq_some_iff.mp h
    obtain ⟨rfl, -⟩ := Prod.mk.inj heq
    simp only [List.cons_append, observed, hfirst]
    rw [ih hrest, List.append_assoc]

end Machine

end FeedRelay
