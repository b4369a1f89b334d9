import FeedRelay.Proofs.Machine
import FeedRelay.Proofs.Relay.Edits
import FeedRelay.Relay.Hub

/-!
# Walks through a registry that changes under them

A script works on a registry and on a memory of its own: it registers endpoints, drops ids, looks at
the registry, and walks through it, which is to run a further script for every endpoint that is
registered when the walk begins. The scripts of a walk may do all that as well, so they may register
endpoints at every visit, drop those that the walk has still to visit, and walk themselves. A walk
meets the endpoints in any order, and what one visit leaves in the memory the next one finds there.

The machine of scripts has the walks that are under way on a stack (`Registry.Execution.machine`).
A script ends whatever the orders of its walks are (`Registry.Execution.halts_start`), since a walk
holds on to the endpoints that it began with. What has been visited and what a walk still has to
visit are together what was registered when it began (`Registry.Execution.Kept`). `Hub.forEach`,
which walks in the order of the ids, is one of the runs (`Registry.Script.exists_run_perform`).

## Main results

* `Registry.Script.walks_visit_once`: what holds of every script on every registry that was edited.
-/

namespace FeedRelay

namespace Registry

/-- A script over a registry with a memory: it is done, registers an endpoint, drops an id, looks
at the registry, or walks through it and goes on with what the walk leaves in the memory. -/
inductive Script (σ : Type) where
  | done (memory : σ)
  | add (e : Endpoint) (next : Script σ)
  | remove (id : String) (next : Bool → Script σ)
  | look (next : Registry → Script σ)
  | forEach (memory : σ) (visit : σ → Endpoint → Script σ) (next : σ → Script σ)

/-- A walk under way: its number, what it runs for an endpoint, the endpoints that it has still to
visit, and what comes after it. -/
structure Walk (σ : Type) where
  number : Nat
  visit : σ → Endpoint → Script σ
  left : List Endpoint
  next : σ → Script σ

/-- A script on its way: the registry, what is left of the script, the walks under way, the
innermost first, and how many walks were begun. -/
structure Execution (σ : Type) where
  registry : Registry
  script : Script σ
  walks : List (Walk σ)
  begun : Nat

namespace Execution

variable {σ : Type}

/-- A script goes on, or begins a walk in some order. -/
inductive Move where
  | go
  | walk (order : List Endpoint)

/-- What a move leaves: the registry was edited, a walk began, visited an endpoint, or finished. -/
inductive Note where
  | edited (edit : Edit)
  | began (number : Nat)
  | visited (number : Nat) (e : Endpoint)
  | finished (number : Nat)
  deriving DecidableEq

/-- The edits among notes. -/
def editsOf (notes : List Note) : List Edit :=
  notes.filterMap fun
    | .edited edit => some edit
    | _ => none

/-- The endpoints that a walk visited. -/
def visitsOf (n : Nat) (notes : List Note) : List Endpoint :=
  notes.filterMap fun
    | .visited m e => if m = n then some e else none
    | _ => none

/-- What was noted before a walk began. -/
def notesBefore (n : Nat) (notes : List Note) : List Note :=
  notes.takeWhile (· ≠ .began n)

/-- A script that begins on a registry. -/
def start (r : Registry) (script : Script σ) : Execution σ :=
  { registry := r, script, walks := [], begun := 0 }

/-- Whether a script has come to its end, with all its walks. -/
def isOver (x : Execution σ) : Bool :=
  match x.script with
  | .done _ => x.walks.isEmpty
  | _ => false

/-- Go on when the script of a visit is done: the walk goes to the next endpoint, or it is
finished. -/
def proceed (x : Execution σ) (memory : σ) : Option (Execution σ × List Note) :=
  match x.walks with
  | [] => none
  | w :: walks =>
    match w.left with
    | e :: left =>
      some ({ x with script := w.visit memory e, walks := { w with left } :: walks },
        [.visited w.number e])
    | [] => some ({ x with script := w.next memory, walks }, [.finished w.number])

/-- The machine of scripts. -/
def machine : Machine (Execution σ) Move Note
  | x, .go =>
    match x.script with
    | .done memory => x.proceed memory
    | .add e next =>
      some ({ x with registry := x.registry.add e, script := next }, [.edited (.add e)])
    | .remove id next =>
      some ({ x with registry := x.registry.remove id, script := next (x.registry.contains id) },
        [.edited (.remove id)])
    | .look next => some ({ x with script := next x.registry }, [])
    | .forEach _ _ _ => none
  | x, .walk order =>
    match x.script with
    | .forEach memory visit next =>
      if order.Perm x.registry.snapshot then
        some ({ x with
            script := .done memory
            walks := { number := x.begun, visit, left := order, next } :: x.walks
            begun := x.begun + 1 },
          [.began x.begun])
      else none
    | _ => none

/-! ### What a move can do -/

/-- What a move does: a line of the script is performed, a walk begins, visits the next endpoint,
or is finished. -/
inductive Change (x : Execution σ) : Move → Execution σ → List Note → Prop
  | add {e : Endpoint} {next : Script σ} (hscript : x.script = .add e next) :
      Change x .go { x with registry := x.registry.add e, script := next } [.edited (.add e)]
  | remove {id : String} {next : Bool → Script σ} (hscript : x.script = .remove id next) :
      Change x .go
        { x with registry := x.registry.remove id, script := next (x.registry.contains id) }
        [.edited (.remove id)]
  | look {next : Registry → Script σ} (hscript : x.script = .look next) :
      Change x .go { x with script := next x.registry } []
  | begin {memory : σ} {visit : σ → Endpoint → Script σ} {next : σ → Script σ}
      {order : List Endpoint} (hscript : x.script = .forEach memory visit next)
      (horder : order.Perm x.registry.snapshot) :
      Change x (.walk order) { x with
        script := .done memory
        walks := { number := x.begun, visit, left := order, next } :: x.walks
        begun := x.begun + 1 } [.began x.begun]
  | visit {memory : σ} {w : Walk σ} {walks : List (Walk σ)} {e : Endpoint}
      {left : List Endpoint} (hscript : x.script = .done memory) (hwalks : x.walks = w :: walks)
      (hleft : w.left = e :: left) :
      Change x .go { x with script := w.visit memory e, walks := { w with left } :: walks }
        [.visited w.number e]
  | finish {memory : σ} {w : Walk σ} {walks : List (Walk σ)} (hscript : x.script = .done memory)
      (hwalks : x.walks = w :: walks) (hleft : w.left = []) :
      Change x .go { x with script := w.next memory, walks } [.finished w.number]

variable {x y : Execution σ} {move : Move} {moves : List Move} {notes more : List Note}

/-- All that a move can do. -/
theorem change_of_machine (h : machine x move = some (y, notes)) : Change x move y notes := by
  cases move with
  | go =>
    unfold machine at h
    dsimp only at h
    split at h
    · rename_i memory hscript
      unfold proceed at h
      split at h
      · cases h
      · rename_i w walks hwalks
        split at h
        · obtain ⟨rfl, rfl⟩ := Prod.mk.inj (Option.some.inj h)
          exact .visit hscript hwalks ‹_›
        · obtain ⟨rfl, rfl⟩ := Prod.mk.inj (Option.some.inj h)
          exact .finish hscript hwalks ‹_›
    · obtain ⟨rfl, rfl⟩ := Prod.mk.inj (Option.some.inj h)
      exact .add ‹_›
    · obtain ⟨rfl, rfl⟩ := Prod.mk.inj (Option.some.inj h)
      exact .remove ‹_›
    · obtain ⟨rfl, rfl⟩ := Prod.mk.inj (Option.some.inj h)
      exact .look ‹_›
    · cases h
  | walk order =>
    unfold machine at h
    dsimp only at h
    split at h
    · rename_i hscript
      obtain ⟨horder, h⟩ := Option.ite_none_right_eq_some.mp h
      obtain ⟨rfl, rfl⟩ := Prod.mk.inj (Option.some.inj h)
      exact .begin hscript horder
    · cases h

/-- A script that is not over can go on. -/
theorem exists_move (h : x.isOver = false) : ∃ move y notes, machine x move = some (y, notes) := by
  cases hscript : x.script with
  | done memory =>
    cases hwalks : x.walks with
    | nil => simp [isOver, hscript, hwalks] at h
    | cons w walks => cases hleft : w.left <;> exact ⟨.go, by simp [machine, proceed, *]⟩
  | forEach memory visit next =>
    exact ⟨.walk x.registry.snapshot, by simp [machine, hscript]⟩
  | _ => exact ⟨.go, by simp [machine, hscript]⟩

/-! ### Scripts end -/

/-- Whatever the orders of its walks are, a script on its way comes to an end: there is no infinite
run from here on. -/
def Halts (x : Execution σ) : Prop :=
  Acc (fun z y => ∃ move notes, machine y move = some (z, notes)) x

theorem halts_of_changes (h : ∀ move y notes, Change x move y notes → y.Halts) : x.Halts :=
  Acc.intro x fun y ⟨move, notes, hstep⟩ => h move y notes (change_of_machine hstep)

/-- A script ends if what comes after it does, whatever it does to the registry, to the memory and
to the number of walks. -/
theorem halts_of_done (script : Script σ) {walks : List (Walk σ)}
    (h : ∀ r memory begun, Halts ⟨r, .done memory, walks, begun⟩) (r : Registry) (begun : Nat) :
    Halts ⟨r, script, walks, begun⟩ := by
  -- The induction is on the script; that of a visit has the rest of its walk after it.
  induction script generalizing walks r begun with
  | done memory => exact h r memory begun
  | add e next ih =>
    refine halts_of_changes fun move y notes hchange => ?_
    cases hchange with
    | add hscript =>
      obtain ⟨rfl, rfl⟩ := Script.add.inj hscript
      exact ih h _ _
    | remove hscript | look hscript | begin hscript | visit hscript | finish hscript =>
      cases hscript
  | remove id next ih =>
    refine halts_of_changes fun move y notes hchange => ?_
    cases hchange with
    | remove hscript =>
      obtain ⟨rfl, rfl⟩ := Script.remove.inj hscript
      exact ih _ h _ _
    | add hscript | look hscript | begin hscript | visit hscript | finish hscript => cases hscript
  | look next ih =>
    refine halts_of_changes fun move y notes hchange => ?_
    cases hchange with
    | look hscript =>
      obtain rfl := Script.look.inj hscript
      exact ih _ h _ _
    | add hscript | remove hscript | begin hscript | visit hscript | finish hscript => cases hscript
  | forEach memory visit next ihvisit ihnext =>
    have hwalk (left : List Endpoint) (n : Nat) (r : Registry) (memory : σ) (begun : Nat) :
        Halts ⟨r, .done memory, ⟨n, visit, left, next⟩ :: walks, begun⟩ := by
      induction left generalizing r memory begun with
      | nil =>
        refine halts_of_changes fun move y notes hchange => ?_
        cases hchange with
        | visit hscript hwalks hleft =>
          obtain ⟨rfl, rfl⟩ := List.cons.inj hwalks
          cases hleft
        | finish hscript hwalks hleft =>
          obtain ⟨rfl, rfl⟩ := List.cons.inj hwalks
          exact ihnext _ h _ _
        | add hscript | remove hscript | look hscript | begin hscript => cases hscript
      | cons e left ih =>
        refine halts_of_changes fun move y notes hchange => ?_
        cases hchange with
        | visit hscript hwalks hleft =>
          obtain ⟨rfl, rfl⟩ := List.cons.inj hwalks
          obtain ⟨rfl, rfl⟩ := List.cons.inj hleft
          exact ihvisit _ _ ih _ _
        | finish hscript hwalks hleft =>
          obtain ⟨rfl, rfl⟩ := List.cons.inj hwalks
          cases hleft
        | add hscript | remove hscript | look hscript | begin hscript => cases hscript
    refine halts_of_changes fun move y notes hchange => ?_
    cases hchange with
    | begin hscript horder =>
      obtain ⟨rfl, rfl, rfl⟩ := Script.forEach.inj hscript
      exact hwalk _ _ _ _ _
    | add hscript | remove hscript | look hscript | visit hscript | finish hscript => cases hscript

/-- A script ends, whatever the orders of its walks are. -/
theorem halts_start (r : Registry) (script : Script σ) : (start r script).Halts := by
  refine halts_of_done script
    (fun r memory begun => halts_of_changes fun move y notes hchange => ?_) r 0
  cases hchange with
  | visit hscript hwalks | finish hscript hwalks => cases hwalks
  | add hscript | remove hscript | look hscript | begin hscript => cases hscript

/-! ### What walks visit -/

/-- The endpoints that a walk has still to visit. -/
def leftOf (x : Execution σ) (n : Nat) : List Endpoint :=
  (x.walks.filter (·.number = n)).flatMap Walk.left

/-- The numbers of the walks under way. -/
def numbers (x : Execution σ) : List Nat :=
  x.walks.map Walk.number

variable {r : Registry} {n : Nat}

@[simp] theorem editsOf_append (notes more : List Note) :
    editsOf (notes ++ more) = editsOf notes ++ editsOf more :=
  List.filterMap_append

@[simp] theorem visitsOf_append (n : Nat) (notes more : List Note) :
    visitsOf n (notes ++ more) = visitsOf n notes ++ visitsOf n more :=
  List.filterMap_append

/-- What comes later was not noted before the walk began. -/
theorem notesBefore_append (h : .began n ∈ notes) (more : List Note) :
    notesBefore n (notes ++ more) = notesBefore n notes := by
  induction notes with
  | nil => cases h
  | cons note rest ih =>
    by_cases hnote : note = .began n
    · simp [notesBefore, hnote]
    · have hrest : .began n ∈ rest := (List.mem_cons.mp h).resolve_left (Ne.symm hnote)
      have hih := ih hrest
      simp only [notesBefore, List.cons_append] at hih ⊢
      rw [List.takeWhile_cons_of_pos (by simpa using hnote), hih,
        List.takeWhile_cons_of_pos (by simpa using hnote)]

/-- Everything was noted before a walk that has just begun. -/
theorem notesBefore_concat (h : .began n ∉ notes) :
    notesBefore n (notes ++ [.began n]) = notes := by
  have hall : ∀ note ∈ notes, decide (note ≠ .began n) = true := by
    intro note hnote
    simp only [ne_eq, decide_eq_true_eq]
    rintro rfl
    exact h hnote
  rw [notesBefore, List.takeWhile_append_of_pos hall]
  simp

/-- The registry in which a walk began. -/
def registryAt (r : Registry) (n : Nat) (notes : List Note) : Registry :=
  r.editAll (editsOf (notesBefore n notes))

/-- What a walk has visited: endpoints that were registered when it began, none of them twice, and
all of them if it has finished. -/
structure VisitsOnce (r : Registry) (n : Nat) (notes : List Note) : Prop where
  nodup : (visitsOf n notes).Nodup
  subset : ∀ e ∈ visitsOf n notes, e ∈ (registryAt r n notes).snapshot
  perm : .finished n ∈ notes → (visitsOf n notes).Perm (registryAt r n notes).snapshot

/-- What holds of a script that began on a registry, and of what it has noted: the registry is the
one that its edits make of it, and what a walk has visited and what it has still to visit are what
was registered when it began. -/
structure Kept (r : Registry) (x : Execution σ) (notes : List Note) : Prop where
  registry_eq : x.registry = r.editAll (editsOf notes)
  lt_begun : ∀ n ∈ x.numbers, n < x.begun
  nodup : x.numbers.Nodup
  began_iff : ∀ n, .began n ∈ notes ↔ n < x.begun
  finished_iff : ∀ n, .finished n ∈ notes ↔ n < x.begun ∧ n ∉ x.numbers
  unvisited : ∀ n, x.begun ≤ n → visitsOf n notes = []
  perm : ∀ n < x.begun, (visitsOf n notes ++ x.leftOf n).Perm (registryAt r n notes).snapshot

/-- The innermost walk and those around it. -/
theorem leftOf_cons {w : Walk σ} {walks : List (Walk σ)} (h : x.walks = w :: walks) (n : Nat) :
    x.leftOf n = (if w.number = n then w.left else []) ++
      (walks.filter (·.number = n)).flatMap Walk.left := by
  rw [leftOf, h, List.filter_cons]
  by_cases hn : w.number = n <;> simp [hn]

theorem leftOf_eq_nil (h : n ∉ x.numbers) : x.leftOf n = [] := by
  have hnone : x.walks.filter (·.number = n) = [] := by
    refine List.filter_eq_nil_iff.mpr fun w hw hn => h ?_
    exact List.mem_map.mpr ⟨w, hw, of_decide_eq_true hn⟩
  rw [leftOf, hnone, List.flatMap_nil]

theorem kept_start (r : Registry) (script : Script σ) : Kept r (start r script) [] where
  registry_eq := rfl
  lt_begun := by simp [numbers, start]
  nodup := List.nodup_nil
  began_iff := by simp [start]
  finished_iff := by simp [start]
  unvisited _ _ := rfl
  perm := by simp [start]

/-- What a walk has to visit it visits or keeps. -/
private theorem Kept.perm_later (h : Kept r x notes) (hn : n < x.begun)
    (hleft : visitsOf n more ++ y.leftOf n = x.leftOf n) :
    (visitsOf n (notes ++ more) ++ y.leftOf n).Perm (registryAt r n (notes ++ more)).snapshot := by
  rw [registryAt, notesBefore_append ((h.began_iff n).mpr hn), visitsOf_append, List.append_assoc,
    hleft]
  exact h.perm n hn

/-- Edits of the registry are no matter of the walks. -/
private theorem Kept.edits (h : Kept r x notes) (edits : List Edit)
    (hregistry : y.registry = x.registry.editAll edits) (hwalks : y.walks = x.walks)
    (hbegun : y.begun = x.begun) : Kept r y (notes ++ edits.map .edited) := by
  have hnumbers : y.numbers = x.numbers := by rw [numbers, hwalks, numbers]
  have hedits : editsOf (edits.map Note.edited) = edits := by
    simp [editsOf, List.filterMap_map]
  have hvisits (n : Nat) : visitsOf n (edits.map Note.edited) = [] := by
    simp [visitsOf, List.filterMap_map]
  refine ⟨?_, ?_, ?_, fun n => ?_, fun n => ?_, fun n hn => ?_, fun n hn => ?_⟩
  · rw [hregistry, h.registry_eq, editsOf_append, hedits, editAll_append]
  · rw [hnumbers, hbegun]
    exact h.lt_begun
  · rw [hnumbers]
    exact h.nodup
  · simp [h.began_iff, hbegun]
  · simp [h.finished_iff, hbegun, hnumbers]
  · rw [visitsOf_append, hvisits, h.unvisited n (hbegun ▸ hn)]
    rfl
  · refine h.perm_later (hbegun ▸ hn) ?_
    rw [hvisits, List.nil_append, leftOf, hwalks, leftOf]

/-- What holds of a script after a move. -/
theorem Kept.step (h : Kept r x notes) (hstep : Change x move y more) :
    Kept r y (notes ++ more) := by
  cases hstep with
  | add hscript => exact h.edits [.add _] rfl rfl rfl
  | remove hscript => exact h.edits [.remove _] rfl rfl rfl
  | look hscript => exact h.edits [] rfl rfl rfl
  | @begin memory visit next order hscript horder =>
    have hfree : x.begun ∉ x.numbers := fun hmem => Nat.lt_irrefl _ (h.lt_begun _ hmem)
    have hnew : .began x.begun ∉ notes := fun hmem => Nat.lt_irrefl _ ((h.began_iff _).mp hmem)
    refine ⟨?_, fun n hn => ?_, List.nodup_cons.mpr ⟨hfree, h.nodup⟩, fun n => ?_, fun n => ?_,
      fun n hn => ?_, fun n hn => ?_⟩
    · rw [editsOf_append]
      exact h.registry_eq.trans (by simp [editsOf])
    · rcases List.mem_cons.mp hn with rfl | hn
      · exact Nat.lt_succ_self _
      · exact Nat.lt_succ_of_lt (h.lt_begun n hn)
    · rw [List.mem_append, List.mem_singleton, Note.began.injEq, h.began_iff]
      exact Nat.lt_succ_iff_lt_or_eq.symm
    · have hnumbers : n < x.begun + 1 ∧ n ∉ x.begun :: x.numbers ↔
          n < x.begun ∧ n ∉ x.numbers := by
        rw [List.mem_cons, not_or, Nat.lt_succ_iff_lt_or_eq]
        exact ⟨fun ⟨hlt, hne, hn⟩ => ⟨hlt.resolve_right hne, hn⟩,
          fun ⟨hlt, hn⟩ => ⟨.inl hlt, Nat.ne_of_lt hlt, hn⟩⟩
      exact Iff.trans (by simp [h.finished_iff]) hnumbers.symm
    · rw [visitsOf_append, h.unvisited n (Nat.le_of_succ_le hn)]
      rfl
    · rcases Nat.lt_succ_iff_lt_or_eq.mp hn with hlt | rfl
      · refine h.perm_later hlt ?_
        rw [leftOf_cons rfl, if_neg (Nat.ne_of_gt hlt)]
        rfl
      · rw [visitsOf_append, h.unvisited _ (Nat.le_refl _), leftOf_cons rfl, if_pos rfl,
          registryAt, notesBefore_concat hnew, ← h.registry_eq]
        have hnone : (x.walks.filter (·.number = x.begun)).flatMap Walk.left = [] :=
          leftOf_eq_nil hfree
        rw [hnone, List.append_nil]
        exact horder
  | @visit memory w walks e left hscript hwalks hleft =>
    have hnumbers : x.numbers = w.number :: walks.map Walk.number := by rw [numbers, hwalks]; rfl
    have hlt : w.number < x.begun := h.lt_begun _ (by simp [hnumbers])
    refine ⟨?_, ?_, ?_, fun n => ?_, fun n => ?_, fun n hn => ?_, fun n hn => ?_⟩
    · rw [editsOf_append]
      exact h.registry_eq.trans (by simp [editsOf])
    · exact fun n hn => h.lt_begun n (hnumbers ▸ hn)
    · have hnodup := h.nodup
      rw [hnumbers] at hnodup
      exact hnodup
    · simp [h.began_iff]
    · have hiff := h.finished_iff n
      rw [hnumbers] at hiff
      exact Iff.trans (by simp) hiff
    · rw [visitsOf_append, h.unvisited n hn]
      have hne : w.number ≠ n := fun heq => Nat.not_lt.mpr hn (heq ▸ hlt)
      simp [visitsOf, hne]
    · refine h.perm_later hn ?_
      rw [leftOf_cons rfl, leftOf_cons hwalks, hleft]
      by_cases hw : w.number = n <;> simp [visitsOf, hw]
  | @finish memory w walks hscript hwalks hleft =>
    have hnumbers : x.numbers = w.number :: walks.map Walk.number := by rw [numbers, hwalks]; rfl
    have hlt : w.number < x.begun := h.lt_begun _ (by simp [hnumbers])
    have hnodup := h.nodup
    rw [hnumbers] at hnodup
    obtain ⟨hfresh, hrest⟩ := List.nodup_cons.mp hnodup
    refine ⟨?_, fun n hn => ?_, hrest, fun n => ?_, fun n => ?_, fun n hn => ?_, fun n hn => ?_⟩
    · rw [editsOf_append]
      exact h.registry_eq.trans (by simp [editsOf])
    · exact h.lt_begun n (hnumbers ▸ List.mem_cons_of_mem _ hn)
    · simp [h.began_iff]
    · have hiff := h.finished_iff n
      rw [hnumbers, List.mem_cons, not_or] at hiff
      rw [List.mem_append, List.mem_singleton, Note.finished.injEq, hiff]
      by_cases hn : n = w.number
      · subst hn
        exact iff_of_true (.inr rfl) ⟨hlt, hfresh⟩
      · simp [hn, numbers]
    · rw [visitsOf_append, h.unvisited n hn]
      rfl
    · refine h.perm_later hn ?_
      rw [leftOf_cons hwalks, hleft, ite_self]
      rfl

/-- A walk visits once, in a registry without endpoints of the same id. -/
theorem Kept.visitsOnce (h : Kept r x notes) (hr : r.Sorted) (hn : .began n ∈ notes) :
    VisitsOnce r n notes := by
  have hperm := h.perm n ((h.began_iff n).mp hn)
  have hnodup := hperm.nodup_iff.mpr (hr.editAll _).nodup_snapshot
  refine ⟨(List.nodup_append.mp hnodup).1, fun e he => ?_, fun hfinished => ?_⟩
  · exact hperm.subset (List.mem_append_left _ he)
  · rwa [leftOf_eq_nil ((h.finished_iff n).mp hfinished).2, List.append_nil] at hperm

/-- Once a script is over, so are its walks. -/
theorem Kept.finished (h : Kept r x notes) (hover : x.isOver = true) (hn : .began n ∈ notes) :
    .finished n ∈ notes := by
  have hnone : x.walks = [] := by
    unfold isOver at hover
    split at hover
    · exact List.isEmpty_iff.mp hover
    · cases hover
  refine (h.finished_iff n).mpr ⟨(h.began_iff n).mp hn, ?_⟩
  simp [numbers, hnone]

/-- What holds of a script after a run from its beginning. -/
theorem kept_of_run {script : Script σ} (h : machine.run (start r script) moves = some (x, notes)) :
    Kept r x notes :=
  Machine.run_induction (motive := fun _ x notes => Kept r x notes) (kept_start r script)
    (fun _ hx hstep => hx.step (change_of_machine hstep)) h

end Execution

/-! ### Walks in the order of the ids -/

namespace Script

variable {σ : Type}

/-- What a script makes of its memory and of the registry of a hub when every walk goes in the order
of the ids. -/
def perform : Script σ → Hub → σ × Hub
  | .done memory, hub => (memory, hub)
  | .add e next, hub => next.perform { hub with registry := hub.registry.add e }
  | .remove id next, hub => (next (hub.registry.contains id)).perform (hub.leave id)
  | .look next, hub => (next hub.registry).perform hub
  | .forEach memory visit next, hub =>
    let (memory, hub) := Hub.forEach (memory, hub) Prod.snd fun (memory, hub) e =>
      (visit memory e).perform hub
    (next memory).perform hub

/-- What a script performs is what one of its runs comes to, whatever is around it. -/
theorem exists_run_perform (script : Script σ) (hub : Hub) (walks : List (Walk σ)) (begun : Nat) :
    ∃ moves later notes, Execution.machine.run ⟨hub.registry, script, walks, begun⟩ moves =
      some (⟨(script.perform hub).2.registry, .done (script.perform hub).1, walks, later⟩,
        notes) := by
  induction script generalizing hub walks begun with
  | done memory => exact ⟨[], begun, [], rfl⟩
  | add e next ih =>
    obtain ⟨moves, later, notes, hrun⟩ := ih { hub with registry := hub.registry.add e } walks begun
    exact ⟨.go :: moves, later, _,
      Execution.machine.run_cons_eq_some.mpr ⟨_, _, _, rfl, hrun, rfl⟩⟩
  | remove id next ih =>
    obtain ⟨moves, later, notes, hrun⟩ := ih (hub.registry.contains id) (hub.leave id) walks begun
    exact ⟨.go :: moves, later, _,
      Execution.machine.run_cons_eq_some.mpr ⟨_, _, _, rfl, hrun, rfl⟩⟩
  | look next ih =>
    obtain ⟨moves, later, notes, hrun⟩ := ih hub.registry hub walks begun
    exact ⟨.go :: moves, later, _,
      Execution.machine.run_cons_eq_some.mpr ⟨_, _, _, rfl, hrun, rfl⟩⟩
  | forEach memory visit next ihvisit ihnext =>
    let serve (s : σ × Hub) (e : Endpoint) : σ × Hub := (visit s.1 e).perform s.2
    have hwalk (n : Nat) (left : List Endpoint) (s : σ × Hub) (begun : Nat) :
        ∃ moves later notes, Execution.machine.run
            ⟨s.2.registry, .done s.1, ⟨n, visit, left, next⟩ :: walks, begun⟩ moves =
          some (⟨(left.foldl serve s).2.registry, next (left.foldl serve s).1, walks, later⟩,
            notes) := by
      induction left generalizing s begun with
      | nil => exact ⟨[.go], begun, _, Execution.machine.run_singleton.mpr rfl⟩
      | cons e left ih =>
        obtain ⟨first, between, seen, hvisit⟩ :=
          ihvisit s.1 e s.2 (⟨n, visit, left, next⟩ :: walks) begun
        obtain ⟨moves, later, notes, hrest⟩ := ih (serve s e) between
        exact ⟨.go :: (first ++ moves), later, _, Execution.machine.run_cons_eq_some.mpr
          ⟨_, _, _, rfl, Execution.machine.run_append hvisit hrest, rfl⟩⟩
    obtain ⟨first, between, seen, hwalked⟩ :=
      hwalk begun hub.registry.snapshot (memory, hub) (begun + 1)
    obtain ⟨moves, later, notes, hnext⟩ :=
      ihnext (hub.registry.snapshot.foldl serve (memory, hub)).1
        (hub.registry.snapshot.foldl serve (memory, hub)).2 walks between
    have hbegin : Execution.machine ⟨hub.registry, .forEach memory visit next, walks, begun⟩
        (.walk hub.registry.snapshot) = some (⟨hub.registry, .done memory,
          ⟨begun, visit, hub.registry.snapshot, next⟩ :: walks, begun + 1⟩, [.began begun]) :=
      if_pos (List.Perm.refl _)
    exact ⟨_, later, _, Execution.machine.run_append (Execution.machine.run_singleton.mpr hbegin)
      (Execution.machine.run_append hwalked hnext)⟩

/-- **Walks visit once.** Let a registry have come about by any registrations and removals.

* It finds under an id what a table of entries has there that is kept by the same edits. Every
  entry stands under the id of its own endpoint, the endpoints found are those of a snapshot, and
  there are as many of them as ids that have one.
* Every script on the registry ends, in whatever orders its walks go, and goes on until it is over.
  The registry is at any moment what the edits of the script have made of it, one after another.
  Each walk, be it one of the script or one within another walk, visits what was registered when it
  began, each endpoint once (`VisitsOnce`), and all walks have finished when the script is over.
* To run a script for every endpoint of a hub, in the order of the ids, is one of the runs. -/
theorem walks_visit_once {σ : Type} {edits : List Edit} {r : Registry}
    (hr : r = empty.editAll edits) :
    (r.find? = Table.empty.editAll edits ∧
      (∀ id e, r.find? id = some e → e.id = id) ∧
      (∀ e, e ∈ r.snapshot ↔ r.find? e.id = some e) ∧
      ∃ ids : Finset String, (∀ id, id ∈ ids ↔ r.contains id = true) ∧ r.size = ids.card) ∧
    (∀ script : Script σ, (Execution.start r script).Halts ∧
      ∀ moves x notes, Execution.machine.run (.start r script) moves = some (x, notes) →
        (x.isOver = false → ∃ move y more, Execution.machine x move = some (y, more)) ∧
        x.registry = r.editAll (Execution.editsOf notes) ∧
        (∀ n, .began n ∈ notes → Execution.VisitsOnce r n notes) ∧
        (x.isOver = true → ∀ n, .began n ∈ notes → .finished n ∈ notes)) ∧
    (∀ (hub after : Hub) (memory left : σ) (visit : σ → Endpoint → Script σ),
      hub.registry = r →
      Hub.forEach (memory, hub) Prod.snd (fun s e => (visit s.1 e).perform s.2) = (left, after) →
      ∃ moves x notes,
        Execution.machine.run (.start r (.forEach memory visit .done)) moves = some (x, notes) ∧
        x.isOver = true ∧ x.script = .done left ∧ x.registry = after.registry) := by
  have hsorted : r.Sorted := hr ▸ sorted_edited edits
  refine ⟨⟨?entries, fun id e h => id_of_find? h, fun e => hsorted.mem_snapshot_iff,
    hsorted.exists_ids⟩, fun script => ⟨Execution.halts_start r script, ?runs⟩, ?order⟩
  case entries =>
    rw [hr, find?_editAll]
    rfl
  case runs =>
    intro moves x notes hrun
    have hkept := Execution.kept_of_run hrun
    exact ⟨Execution.exists_move, hkept.registry_eq, fun n hn => hkept.visitsOnce hsorted hn,
      fun hover n hn => hkept.finished hover hn⟩
  case order =>
    rintro hub after memory left visit rfl hwalk
    obtain ⟨moves, later, notes, hrun⟩ :=
      exists_run_perform (.forEach memory visit .done) hub [] 0
    have hperform : (Script.forEach memory visit .done).perform hub = (left, after) := hwalk
    rw [hperform] at hrun
    exact ⟨moves, _, notes, hrun, rfl, rfl, rfl⟩

/-- A script that replaces every endpoint it visits by one with another id and a channel from its
memory, and walks through what is registered then. -/
def churn : Script Nat :=
  .forEach 7 (fun channel e =>
    .remove e.id fun _ => .add ⟨e.id ++ "+", channel⟩
      (.forEach channel (fun channel _ => .done channel) fun channel => .done (channel + 1))) .done

/-- The script visits the two endpoints that were registered, and not those that took their places;
the walks within it visit these. -/
theorem walks_visit_once_of_churn :
    ∃ x notes, Execution.machine.run
        (.start (empty.editAll [.add ⟨"a", 0⟩, .add ⟨"b", 1⟩, .add ⟨"a", 2⟩]) churn)
        [.walk [⟨"b", 1⟩, ⟨"a", 2⟩], .go, .go, .go, .walk [⟨"b+", 7⟩, ⟨"a", 2⟩], .go, .go, .go,
          .go, .go, .go, .walk [⟨"a+", 8⟩, ⟨"b+", 7⟩], .go, .go, .go, .go] = some (x, notes) ∧
      x.isOver = true ∧ Execution.visitsOf 0 notes = [⟨"b", 1⟩, ⟨"a", 2⟩] ∧
      Execution.visitsOf 2 notes = [⟨"a+", 8⟩, ⟨"b+", 7⟩] ∧
      x.registry = ⟨[⟨"a+", 8⟩, ⟨"b+", 7⟩]⟩ ∧
      (∀ n, .began n ∈ notes → Execution.VisitsOnce
        (empty.editAll [.add ⟨"a", 0⟩, .add ⟨"b", 1⟩, .add ⟨"a", 2⟩]) n notes) ∧
      .finished 0 ∈ notes := by
  have hrun : (Execution.machine.run
      (.start (empty.editAll [.add ⟨"a", 0⟩, .add ⟨"b", 1⟩, .add ⟨"a", 2⟩]) churn)
      [.walk [⟨"b", 1⟩, ⟨"a", 2⟩], .go, .go, .go, .walk [⟨"b+", 7⟩, ⟨"a", 2⟩], .go, .go, .go,
        .go, .go, .go, .walk [⟨"a+", 8⟩, ⟨"b+", 7⟩], .go, .go, .go, .go]).map (fun (x, notes) =>
          (x.isOver, Execution.visitsOf 0 notes, Execution.visitsOf 2 notes, x.registry,
            decide (.began 0 ∈ notes))) =
      some (true, [⟨"b", 1⟩, ⟨"a", 2⟩], [⟨"a+", 8⟩, ⟨"b+", 7⟩], ⟨[⟨"a+", 8⟩, ⟨"b+", 7⟩]⟩,
        true) := by
    decide +kernel
  obtain ⟨⟨x, notes⟩, hrun, hseen⟩ := Option.map_eq_some_iff.mp hrun
  simp only [Prod.mk.injEq, decide_eq_true_eq] at hseen
  obtain ⟨hover, hvisits, hinner, hregistry, hbegan⟩ := hseen
  obtain ⟨-, hscripts, -⟩ := walks_visit_once (σ := Nat) (r := empty.editAll _) rfl
  obtain ⟨-, -, honce, hfinished⟩ := (hscripts churn).2 _ _ _ hrun
  exact ⟨x, notes, hrun, hover, hvisits, hinner, hregistry, honce, hfinished hover 0 hbegan⟩

end Script

end Registry

end FeedRelay
