import FeedRelay.Proofs.Feed.ServiceRoster

/-!
# What can be seen of a key

A service serves many keys. Of one of them there can be seen what happens to its tasks, the
attempts to connect that calls make for it, what the handler is told of it, where it and its tasks
stand, and what the calls that concern it return (`Service.Glimpse`). The tasks of a key are
numbered among themselves (`Service.rank`), so that a glimpse does not tell of other keys.
-/

namespace FeedRelay

section

variable {α : Type} {p : α → Bool} {list : List α} {a b : α} {m n : Nat}

/-- What a filter keeps stands behind what it keeps of those before. -/
theorem getElem?_filter (h : list[n]? = some a) (ha : p a = true) :
    (list.filter p)[(list.take n).countP p]? = some a := by
  induction list generalizing n with
  | nil => cases h
  | cons c rest ih =>
    cases n with
    | zero =>
      obtain rfl := Option.some.inj h
      rw [List.filter_cons_of_pos ha]
      rfl
    | succ n =>
      have hrest := ih (n := n) h
      rw [List.take_succ_cons, List.countP_cons, List.filter_cons]
      split
      · exact hrest
      · exact hrest

/-- A change of what a filter keeps, into what it keeps, can be made behind the filter. -/
theorem filter_set (h : list[n]? = some a) (ha : p a = true) (hb : p b = true) :
    (list.set n b).filter p = (list.filter p).set ((list.take n).countP p) b := by
  induction list generalizing n with
  | nil => cases h
  | cons c rest ih =>
    cases n with
    | zero =>
      obtain rfl := Option.some.inj h
      rw [List.filter_cons_of_pos ha, List.set_cons_zero, List.filter_cons_of_pos hb]
      rfl
    | succ n =>
      have hrest := ih (n := n) h
      rw [List.take_succ_cons, List.countP_cons, List.filter_cons, List.set_cons_succ,
        List.filter_cons, hrest]
      split
      · rfl
      · rfl

/-- A change of what a filter drops, into what it drops, is not seen behind it. -/
theorem filter_set_of_neg (h : list[n]? = some a) (ha : p a = false) (hb : p b = false) :
    (list.set n b).filter p = list.filter p := by
  induction list generalizing n with
  | nil => cases h
  | cons c rest ih =>
    cases n with
    | zero =>
      obtain rfl := Option.some.inj h
      rw [List.set_cons_zero, List.filter_cons_of_neg (ne_true_of_eq_false hb),
        List.filter_cons_of_neg (ne_true_of_eq_false ha)]
    | succ n =>
      rw [List.set_cons_succ, List.filter_cons, List.filter_cons, ih h]

/-- A change of what a filter keeps or drops alike moves nothing behind it. -/
theorem countP_take_set (h : list[n]? = some a) (hab : p a = p b) :
    ((list.set n b).take m).countP p = (list.take m).countP p := by
  induction list generalizing m n with
  | nil => cases h
  | cons c rest ih =>
    cases m with
    | zero => rfl
    | succ m =>
      cases n with
      | zero =>
        obtain rfl := Option.some.inj h
        rw [List.set_cons_zero, List.take_succ_cons, List.take_succ_cons, List.countP_cons,
          List.countP_cons, hab]
      | succ n =>
        rw [List.set_cons_succ, List.take_succ_cons, List.take_succ_cons, List.countP_cons,
          List.countP_cons, ih h]

end

namespace Feed.Service

/-- The number of a task among those of a key. -/
def rank (s : Service) (key : String) (n : Nat) : Nat :=
  (s.followers.take n).countP (·.key = key)

/-- What can be seen of a key: something happens to a task of it, an attempt of a call to connect
for it comes out, the handler is told of it, it and its tasks come to stand somewhere, or a call
that concerns it returns. -/
inductive Glimpse where
  | happened (number : Nat) (occurrence : Occurrence)
  | connected (topic : Topic) (result : Except Failure Url)
  | told (number : Nat) (topic : Topic) (event : Event)
  | stands (state : Option State) (states : List State)
  | returned (outcome : Outcome)

/-- Whether a move makes a call for a key, or makes none. -/
def Move.isFor (key : String) : Move → Bool
  | .subscribe name instanceId =>
    (Topic.ofParts name instanceId).toOption.any (·.displayKey = key)
  | .subscribeTopic topic => topic.displayKey = key
  | .unsubscribe other => other = key
  | .shutdown _ | .resume | .connected _ | .occur _ _ => true

/-- Whether the call that a service is making concerns a key. -/
def isBusyWith (s : Service) (key : String) : Bool :=
  match s.call with
  | .idle => false
  | .replacing topic _ | .connecting topic => topic.displayKey = key
  | .dropping n => s.keyOf n = key
  | .clearing _ _ => true

/-- Whether what a call returns concerns a key. -/
def concerns (s : Service) (key : String) (move : Move) : Bool :=
  match move with
  | .resume | .connected _ => s.isBusyWith key
  | .occur _ _ => false
  | _ => move.isFor key

/-- What comes in for a key: what happens to its tasks, and how the attempts of calls come out. -/
def incoming (s : Service) (key : String) : Move → List Glimpse
  | .occur n occurrence =>
    if s.keyOf n = key then [.happened (s.rank key n) occurrence] else []
  | .connected network =>
    match s.call with
    | .connecting topic =>
      if topic.displayKey = key then [.connected topic (connect network topic s.base).1] else []
    | _ => []
  | _ => []

/-- The glimpse of a key in a report. -/
def glimpse? (s : Service) (key : String) (move : Move) : Report → Option Glimpse
  | .told n topic event =>
    if topic.displayKey = key then some (.told (s.rank key n) topic event) else none
  | .returned outcome => if s.concerns key move then some (.returned outcome) else none

/-- Where the tasks of a key stand, in the order in which they were started. -/
def statesOf (s : Service) (key : String) : List State :=
  (s.followers.filter (·.key = key)).map Follower.state

/-- Where a key has come to stand, if that is not where it stood before. -/
def standing (s t : Service) (key : String) : List Glimpse :=
  if t.roster.state? key = s.roster.state? key ∧ t.statesOf key = s.statesOf key then []
  else [.stands (t.roster.state? key) (t.statesOf key)]

/-- The machine of services, of which one key is watched. -/
def watch (key : String) : Machine Service Move Glimpse := fun s move =>
  (machine s move).map fun (t, reports) =>
    (t, s.incoming key move ++ reports.filterMap (s.glimpse? key move) ++ s.standing t key)

variable {s t : Service} {key : String} {move : Move} {reports : List Report}
  {glimpses : List Glimpse}

theorem watch_eq_some : watch key s move = some (t, glimpses) ↔
    ∃ reports, machine s move = some (t, reports) ∧ glimpses =
      s.incoming key move ++ reports.filterMap (s.glimpse? key move) ++ s.standing t key := by
  simp only [watch, Option.map_eq_some_iff, Prod.exists, Prod.mk.injEq]
  constructor
  · rintro ⟨t, reports, h, rfl, rfl⟩
    exact ⟨reports, h, rfl⟩
  · rintro ⟨reports, h, rfl⟩
    exact ⟨t, reports, h, rfl, rfl⟩

/-- To watch a key changes nothing. -/
theorem exists_watch_run (key : String) {moves : List Move}
    (h : machine.run s moves = some (t, reports)) :
    ∃ glimpses, (watch key).run s moves = some (t, glimpses) := by
  refine Machine.run_induction
    (motive := fun moves t _ => ∃ glimpses, (watch key).run s moves = some (t, glimpses))
    ⟨[], rfl⟩ ?_ h
  rintro moves t _ move u more - ⟨glimpses, hrun⟩ hstep
  exact ⟨_, (watch key).run_append hrun
    ((watch key).run_singleton.mpr (watch_eq_some.mpr ⟨more, hstep, rfl⟩))⟩

end Feed.Service

end FeedRelay
