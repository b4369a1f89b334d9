import FeedRelay.Proofs.Feed.ServiceRoster

/-!
# Waiting until all subscriptions have closed

Whoever waits until a service has closed takes the states of its tasks one after another, in any
order, and waits for each until it is closed or its task is gone. Meanwhile the tasks go on as they
like: those that were seen are not looked at again, and those that will be looked at lose their
connections and make new ones. The wait is exact all the same, because a task that is over makes no
step any more (`Service.Orderly.over_of_machine`), so that what was seen of it holds on
(`Wait.Kept`).

## Main results

* `Wait.returns_when_all_closed`: who has returned has waited for all subscriptions to close, and
  who waits when all have closed returns.
-/

namespace FeedRelay.Feed

/-- A service while somebody waits until it has closed: the tasks whose states have still to be
awaited, one after another, or `none` when the wait has returned. -/
structure Wait where
  service : Service
  left : Option (List Nat)

namespace Wait

/-- Something happens to a task, or the state of the next task is looked at. -/
inductive Move where
  | occur (number : Nat) (occurrence : Occurrence)
  | look

/-- What a move leaves: a report of the service, what came of the wait for a task, or the return. -/
inductive Note where
  | service (report : Report)
  | saw (number : Nat) (reached : Bool)
  | returned

/-- What a move is to the service. -/
def Move.inner : Move → List Service.Move
  | .occur n occurrence => [.occur n occurrence]
  | .look => []

/-- The reports of the service in a note. -/
def Note.inner : Note → List Report
  | .service report => [report]
  | _ => []

/-- Whether a move is a look at the next task. -/
def Move.isLook : Move → Bool
  | .look => true
  | .occur _ _ => false

/-- What comes of the wait for a task to close: it has closed, or it is over and will not close;
`none` while one has to wait on. -/
def reached? (s : Service) (n : Nat) : Option Bool :=
  (s.follower? n).bind fun f =>
    (f.state.awaited .closed).or (if f.isOver then some false else none)

/-- How many looks a wait has before it. -/
def looksLeft (w : Wait) : Nat :=
  w.left.elim 0 fun left => left.length + 1

/-- Begin to wait for the tasks of a service, in some order. -/
def start (s : Service) (order : List Nat) : Wait :=
  { service := s, left := some order }

/-- The machine of waits. -/
def machine : Machine Wait Move Note
  | w, .occur n occurrence =>
    (Service.machine w.service (.occur n occurrence)).map fun (service, reports) =>
      ({ w with service }, reports.map .service)
  | w, .look =>
    match w.left with
    | none => none
    | some [] => some ({ w with left := none }, [.returned])
    | some (n :: left) =>
      (reached? w.service n).map fun reached =>
        ({ w with left := some left }, [.saw n reached])

variable {s : Service} {w u : Wait} {move : Move} {moves later : List Move} {notes more : List Note}
  {order : List Nat} {n : Nat}

/-! ### What a move can do -/

/-- What a move does: a task makes a step, the wait for a task comes to its end, or the wait for all
returns. -/
inductive Change (w : Wait) : Move → Wait → List Note → Prop
  | occur {n : Nat} {occurrence : Occurrence} {t : Service} {reports : List Report}
      (hstep : Service.machine w.service (.occur n occurrence) = some (t, reports)) :
      Change w (.occur n occurrence) { w with service := t } (reports.map .service)
  | saw {n : Nat} {left : List Nat} {reached : Bool} (hleft : w.left = some (n :: left))
      (hreached : reached? w.service n = some reached) :
      Change w .look { w with left := some left } [.saw n reached]
  | finish (hleft : w.left = some []) : Change w .look { w with left := none } [.returned]

/-- All that a move can do. -/
theorem change_of_machine (h : machine w move = some (u, notes)) : Change w move u notes := by
  cases move with
  | occur n occurrence =>
    obtain ⟨⟨t, reports⟩, hstep, heq⟩ := Option.map_eq_some_iff.mp h
    obtain ⟨rfl, rfl⟩ := Prod.mk.inj heq
    exact .occur hstep
  | look =>
    rw [machine] at h
    split at h
    · cases h
    · obtain ⟨rfl, rfl⟩ := Prod.mk.inj (Option.some.inj h)
      exact .finish ‹_›
    · obtain ⟨reached, hreached, heq⟩ := Option.map_eq_some_iff.mp h
      obtain ⟨rfl, rfl⟩ := Prod.mk.inj heq
      exact .saw ‹_› hreached

/-- What a move is to the service, the service does. -/
theorem inner_of_machine (h : machine w move = some (u, notes)) :
    Service.machine.run w.service move.inner = some (u.service, notes.flatMap Note.inner) := by
  cases change_of_machine h with
  | occur hstep =>
    rw [List.flatMap_map]
    exact Service.machine.run_singleton.mpr (hstep.trans (by simp [Note.inner]))
  | saw | finish => rfl

/-- A run of a wait is a run of the service. -/
theorem run_inner (h : machine.run w moves = some (u, notes)) :
    Service.machine.run w.service (moves.flatMap Move.inner) =
      some (u.service, notes.flatMap Note.inner) :=
  Machine.run_simulated (f := Wait.service) (g := Move.inner)
    (fun hstep => inner_of_machine hstep) h

/-! ### What was seen holds on -/

private theorem entries_of_occur {t : Service} {occurrence : Occurrence} {reports : List Report}
    (h : Service.machine s (.occur n occurrence) = some (t, reports)) : t.entries = s.entries := by
  obtain ⟨task, -, h⟩ := Option.bind_eq_some_iff.mp h
  obtain ⟨-, h⟩ := Option.ite_none_right_eq_some.mp h
  obtain ⟨⟨g, actions⟩, -, heq⟩ := Option.map_eq_some_iff.mp h
  obtain ⟨rfl, -⟩ := Prod.mk.inj heq
  rfl

/-- A task whose wait has come to its end is over, and the wait says whether it has closed. -/
theorem over_of_reached (hs : s.Orderly) {reached : Bool} (h : reached? s n = some reached) :
    ∃ f, s.follower? n = some f ∧ f.isOver = true ∧ (reached = true ↔ f.state = .closed) := by
  obtain ⟨f, hf, h⟩ := Option.bind_eq_some_iff.mp h
  refine ⟨f, hf, ?_⟩
  by_cases hclosed : f.state = .closed
  · have hreached : true = reached := by simpa [State.awaited, hclosed] using h
    exact ⟨((hs.closed_iff hf).mp hclosed).1, iff_of_true hreached.symm hclosed⟩
  · have hover : f.isOver = true ∧ false = reached := by simpa [State.awaited, hclosed] using h
    exact ⟨hover.1, iff_of_false (by simp [← hover.2]) hclosed⟩

/-- What holds of a wait for tasks in some order: each of them is still to be looked at or was seen,
and one that was seen is over as it was then. -/
structure Kept (s : Service) (order : List Nat) (w : Wait) (notes : List Note) : Prop where
  orderly : w.service.Orderly
  entries_eq : w.service.entries = s.entries
  left_subset : ∀ left, w.left = some left → left ⊆ order
  seen : ∀ n ∈ order, (∃ left, w.left = some left ∧ n ∈ left) ∨ ∃ reached, .saw n reached ∈ notes
  seen_over : ∀ n reached, .saw n reached ∈ notes → ∃ f, w.service.follower? n = some f ∧
    f.isOver = true ∧ (reached = true ↔ f.state = .closed)
  returned_iff : .returned ∈ notes ↔ w.left = none

theorem kept_start (hs : s.Orderly) (order : List Nat) : Kept s order (start s order) [] where
  orderly := hs
  entries_eq := rfl
  left_subset left hleft := by
    cases hleft
    exact List.Subset.refl _
  seen n hn := .inl ⟨order, rfl, hn⟩
  seen_over _ _ h := by cases h
  returned_iff := iff_of_false (by simp) (by simp [start])

theorem Kept.step (h : Kept s order w notes) (hstep : machine w move = some (u, more)) :
    Kept s order u (notes ++ more) := by
  cases change_of_machine hstep with
  | @occur n occurrence t reports hmove =>
    have hnone (note : Note) (hnote : ∀ report, note ≠ .service report) :
        note ∈ notes ++ reports.map .service ↔ note ∈ notes := by
      simp [Ne.symm (hnote _)]
    exact {
      orderly := h.orderly.step hmove
      entries_eq := (entries_of_occur hmove).trans h.entries_eq
      left_subset := h.left_subset
      seen := fun m hm => by
        simpa only [hnone (.saw m _) (by simp)] using h.seen m hm
      seen_over := fun m reached hsaw => by
        obtain ⟨f, hf, hover, hiff⟩ := h.seen_over m reached ((hnone _ (by simp)).mp hsaw)
        exact ⟨f, (h.orderly.over_of_machine hmove hf hover).1, hover, hiff⟩
      returned_iff := (hnone _ (by simp)).trans h.returned_iff }
  | @saw n left reached hleft hreached =>
    exact {
      orderly := h.orderly
      entries_eq := h.entries_eq
      left_subset := fun other hother => by
        obtain rfl := Option.some.inj hother
        exact fun m hm => h.left_subset _ hleft (List.mem_cons_of_mem _ hm)
      seen := fun m hm => by
        rcases h.seen m hm with ⟨others, hothers, hmem⟩ | ⟨earlier, hsaw⟩
        · obtain rfl := Option.some.inj (hleft.symm.trans hothers)
          rcases List.mem_cons.mp hmem with rfl | hmem
          · exact .inr ⟨reached, by simp⟩
          · exact .inl ⟨left, rfl, hmem⟩
        · exact .inr ⟨earlier, List.mem_append_left _ hsaw⟩
      seen_over := fun m earlier hsaw => by
        rcases List.mem_append.mp hsaw with hsaw | hsaw
        · exact h.seen_over m earlier hsaw
        · cases List.mem_singleton.mp hsaw
          exact over_of_reached h.orderly hreached
      returned_iff := by
        simpa [hleft] using h.returned_iff }
  | finish hleft =>
    exact {
      orderly := h.orderly
      entries_eq := h.entries_eq
      left_subset := fun left hnone => by cases hnone
      seen := fun m hm => by
        rcases h.seen m hm with ⟨others, hothers, hmem⟩ | ⟨reached, hsaw⟩
        · obtain rfl := Option.some.inj (hleft.symm.trans hothers)
          cases hmem
        · exact .inr ⟨reached, List.mem_append_left _ hsaw⟩
      seen_over := fun m reached hsaw => h.seen_over m reached (by simpa using hsaw)
      returned_iff := by simp }

theorem kept_of_run (hs : s.Orderly) (h : machine.run (start s order) moves = some (w, notes)) :
    Kept s order w notes :=
  Machine.run_induction (motive := fun _ w notes => Kept s order w notes) (kept_start hs order)
    (fun _ hw hstep => hw.step hstep) h

/-! ### When all have closed -/

/-- A roster has closed if the tasks of all entries have. -/
theorem isClosed_roster : s.roster.isClosed = true ↔
    ∀ n ∈ s.entries, ∀ f, s.follower? n = some f → f.state = .closed := by
  rw [Roster.isClosed, Service.roster, List.all_eq_true]
  simp only [List.mem_filterMap, decide_eq_true_eq]
  constructor
  · intro h n hn f hf
    exact h f ⟨n, hn, hf⟩
  · rintro h f ⟨n, hn, hf⟩
    exact h n hn f hf

theorem state?_of_isClosed {roster : Roster} {key : String} (h : roster.isClosed = true)
    (hkey : key ∈ roster.keys) : roster.state? key = some .closed := by
  obtain ⟨g, hg, hgkey⟩ := List.mem_map.mp hkey
  cases hfind : roster.find? key with
  | none => exact absurd hgkey (by simpa using List.find?_eq_none.mp hfind g hg)
  | some f =>
    have hclosed := List.all_eq_true.mp h f (List.mem_of_find?_eq_some hfind)
    rw [Roster.state?, hfind, Option.map_some, of_decide_eq_true hclosed]

/-- A task that has closed stays as it is. -/
theorem follower?_of_closed {t : Service} {f : Follower} {inner : List Service.Move}
    {reports : List Report} (hs : s.Orderly) (hf : s.follower? n = some f)
    (hclosed : f.state = .closed) (h : Service.machine.run s inner = some (t, reports)) :
    t.follower? n = some f :=
  (Service.over_of_run hs h hf ((hs.closed_iff hf).mp hclosed).1).1

/-- What has closed stays closed while somebody waits. -/
theorem Kept.isClosed_of_run (hw : Kept s order w notes) (hu : Kept s order u (notes ++ more))
    (h : machine.run w later = some (u, more)) (hclosed : w.service.roster.isClosed = true) :
    u.service.roster.isClosed = true := by
  refine isClosed_roster.mpr fun n hn g hg => ?_
  have hn : n ∈ w.service.entries := by rwa [hw.entries_eq, ← hu.entries_eq]
  obtain ⟨f, hf⟩ := Service.exists_follower? (hw.orderly.lt_of_mem_entries hn)
  have hstate := isClosed_roster.mp hclosed n hn f hf
  have hkept := follower?_of_closed hw.orderly hf hstate (run_inner h)
  rw [← Option.some.inj (hkept.symm.trans hg)]
  exact hstate

/-- When all have closed, no look has to wait. -/
theorem Kept.exists_look (h : Kept s order w notes) (horder : order.Perm s.entries)
    (hclosed : w.service.roster.isClosed = true) (hleft : w.left ≠ none) :
    ∃ u more, machine w .look = some (u, more) := by
  cases hl : w.left with
  | none => exact absurd hl hleft
  | some left =>
    cases left with
    | nil => exact ⟨_, _, by rw [machine, hl]⟩
    | cons n left =>
      have hn : n ∈ w.service.entries := by
        rw [h.entries_eq]
        exact horder.mem_iff.mp (h.left_subset _ hl List.mem_cons_self)
      obtain ⟨f, hf⟩ := Service.exists_follower? (h.orderly.lt_of_mem_entries hn)
      have hreached : reached? w.service n = some true := by
        rw [reached?, hf, Option.bind_some, isClosed_roster.mp hclosed n hn f hf]
        rfl
      refine ⟨_, _, by rw [machine, hl]; exact congrArg (Option.map _) hreached⟩

/-- Every look is one less to come. -/
theorem looks_of_run (h : machine.run w later = some (u, more)) :
    later.countP Move.isLook + u.looksLeft = w.looksLeft := by
  refine Machine.run_induction
    (motive := fun later u _ => later.countP Move.isLook + u.looksLeft = w.looksLeft)
    (Nat.zero_add _) ?_ h
  intro later u _ move v _ _ hu hstep
  rw [List.countP_append, ← hu]
  cases change_of_machine hstep with
  | occur => rfl
  | saw hleft | finish hleft => simp +arith [looksLeft, hleft, Move.isLook]

/-- Who has returned has seen all tasks, and none of them goes on. -/
theorem Kept.closed_of_returned (h : Kept s order w notes) (horder : order.Perm s.entries)
    (hreturned : .returned ∈ notes)
    (hwell : ∀ n ∈ s.entries, ∀ f, w.service.follower? n = some f → f.pump.phase ≠ .stuck)
    (hn : n ∈ s.entries) : ∃ f, w.service.follower? n = some f ∧ f.state = .closed := by
  have hleft := h.returned_iff.mp hreturned
  rcases h.seen n (horder.mem_iff.mpr hn) with ⟨left, hsome, -⟩ | ⟨reached, hsaw⟩
  · rw [hleft] at hsome
    cases hsome
  · obtain ⟨f, hf, hover, -⟩ := h.seen_over n reached hsaw
    exact ⟨f, hf, (h.orderly.closed_iff hf).mpr ⟨hover, hwell n hn f hf⟩⟩

/-- **A wait for the close is exact.** For every service that came about by calls and steps of its
tasks, every order in which the tasks are looked at, and everything that happens to them meanwhile:

* when the wait has returned, and no task is stuck, all subscriptions that the service holds, which
  are those that it held at the start, read closed, and their tasks stay as they are, whatever the
  service does then;
* what came of the wait for a task says whether the task has closed, and goes on to say so;
* from a moment at which all of them read closed, whatever happens to the tasks, they read closed,
  the wait can go on as long as it has not returned, and it has returned when it has gone on as
  often as it has tasks left to look at, and once more. -/
theorem returns_when_all_closed {base : Url} {policy : ReconnectPolicy} {before : List Service.Move}
    {reports : List Report}
    (h : Service.machine.run (Service.start base policy) before = some (s, reports))
    (horder : order.Perm s.entries)
    (hwait : machine.run (start s order) moves = some (w, notes)) :
    (.returned ∈ notes →
      (∀ n ∈ s.entries, ∀ f, w.service.follower? n = some f → f.pump.phase ≠ .stuck) →
      w.service.roster.isClosed = true ∧ w.service.roster.keys = s.roster.keys ∧
        (∀ key ∈ s.roster.keys, w.service.roster.state? key = some .closed) ∧
        ∀ later t more, Service.machine.run w.service later = some (t, more) →
          ∀ n ∈ s.entries, ∃ f, w.service.follower? n = some f ∧ t.follower? n = some f ∧
            f.state = .closed) ∧
    (∀ n reached, .saw n reached ∈ notes → ∃ f, w.service.follower? n = some f ∧
      (reached = true ↔ f.state = .closed)) ∧
    (w.service.roster.isClosed = true →
      ∀ later u more, machine.run w later = some (u, more) →
        u.service.roster.isClosed = true ∧
        (.returned ∉ notes ++ more → ∃ v last, machine u .look = some (v, last)) ∧
        (w.looksLeft ≤ later.countP Move.isLook → .returned ∈ notes ++ more)) := by
  have hs := (Service.reached_of_run h).orderly
  have hw := kept_of_run hs hwait
  refine ⟨?returned, fun n reached hsaw => ?saw, ?closed⟩
  case returned =>
    intro hreturned hwell
    have hclosed {n : Nat} (hn : n ∈ s.entries) :=
      hw.closed_of_returned horder hreturned hwell hn
    have hall : w.service.roster.isClosed = true := by
      refine isClosed_roster.mpr fun n hn g hg => ?_
      obtain ⟨f, hf, hstate⟩ := hclosed (hw.entries_eq ▸ hn)
      rw [← Option.some.inj (hf.symm.trans hg)]
      exact hstate
    have hkeys : w.service.roster.keys = s.roster.keys := by
      rw [hw.orderly.keys_roster, hs.keys_roster, hw.entries_eq]
      exact List.map_congr_left fun n hn =>
        (hs.keyOf_of_run (run_inner hwait) (hs.lt_of_mem_entries hn)).2.2
    refine ⟨hall, hkeys, fun key hkey => state?_of_isClosed hall (hkeys ▸ hkey),
      fun later t more hlater n hn => ?_⟩
    obtain ⟨f, hf, hstate⟩ := hclosed hn
    exact ⟨f, hf, follower?_of_closed hw.orderly hf hstate hlater, hstate⟩
  case saw =>
    obtain ⟨f, hf, -, hiff⟩ := hw.seen_over n reached hsaw
    exact ⟨f, hf, hiff⟩
  case closed =>
    intro hclosed later u more hlater
    have hu := kept_of_run hs (machine.run_append hwait hlater)
    have hall := hw.isClosed_of_run hu hlater hclosed
    refine ⟨hall, fun hnot => hu.exists_look horder hall (mt hu.returned_iff.mpr hnot),
      fun hlooks => hu.returned_iff.mpr ?_⟩
    have hcount := looks_of_run hlater
    have hnone : u.looksLeft = 0 := by omega
    cases hleft : u.left with
    | none => rfl
    | some left => simp [looksLeft, hleft] at hnone

/-- A wait for two subscriptions. Both lose their connections; the first one gets none again and
closes, the second one gets one, loses it, and closes when the next attempt fails. -/
def longWait : List Move :=
  let refused (address : String) := Occurrence.attempt (.error (.connection address (.io .refused)))
  let other := { Topic.slashed with path := .segments ["subscribe".toList, ['b']] }
  [.occur 1 (.signal .ended), .occur 1 .event, .occur 1 .event, .occur 0 (.signal .ended),
    .occur 0 .event, .occur 0 .event, .occur 1 .elapsed,
    .occur 1 (.attempt (.ok other)), .occur 0 .elapsed,
    .occur 0 (refused "ws://h/subscribe/a"), .look, .occur 1 .event, .occur 1 (.signal .ended),
    .occur 1 .event, .occur 1 .elapsed, .occur 1 (refused "ws://h/subscribe/b"), .look, .look]

/-- The wait returns when both have closed, and then they read closed. -/
theorem returns_when_all_closed_of_longWait :
    ∃ s reports w notes, Service.machine.run (Service.start Topic.slashed
          (.withMaxAttempts (.exponential (.ofMilliseconds 500) (.ofMilliseconds 8000)) 1))
        [.subscribe "a" none, .connected fun _ => none, .subscribe "b" none,
          .connected fun _ => none] = some (s, reports) ∧
      [0, 1].Perm s.entries ∧ machine.run (start s [0, 1]) longWait = some (w, notes) ∧
      .returned ∈ notes ∧ w.service.roster.isClosed = true ∧
      ∀ key ∈ ["a", "b"], w.service.roster.state? key = some .closed := by
  have hrun : ((Service.machine.run (Service.start Topic.slashed
        (.withMaxAttempts (.exponential (.ofMilliseconds 500) (.ofMilliseconds 8000)) 1))
      [.subscribe "a" none, .connected fun _ => none, .subscribe "b" none,
        .connected fun _ => none]).bind fun before =>
        (machine.run (start before.1 [0, 1]) longWait).map fun (w, _) =>
          (before.1.entries, before.1.roster.keys, w.left,
            [0, 1].map fun n => (w.service.follower? n).map (·.pump.phase))) =
      some ([0, 1], ["a", "b"], none, [some .ended, some .ended]) := by
    decide +kernel
  obtain ⟨⟨s, reports⟩, hbefore, hrun⟩ := Option.bind_eq_some_iff.mp hrun
  obtain ⟨⟨w, notes⟩, hwait, hseen⟩ := Option.map_eq_some_iff.mp hrun
  simp only [Prod.mk.injEq] at hseen
  obtain ⟨hentries, hkeys, hleft, hphases⟩ := hseen
  have horder : [0, 1].Perm s.entries := by rw [hentries]
  have hreturned : .returned ∈ notes :=
    (kept_of_run (Service.reached_of_run hbefore).orderly hwait).returned_iff.mpr hleft
  obtain ⟨hclosed, -, hstates, -⟩ :=
    (returns_when_all_closed hbefore horder hwait).1 hreturned fun n hn f hf hstuck => by
      rw [hentries] at hn
      rcases List.mem_pair.mp hn with rfl | rfl <;> simp [hf, hstuck] at hphases
  exact ⟨s, reports, w, notes, hbefore, horder, hwait, hreturned, hclosed, hkeys ▸ hstates⟩

end Wait

end FeedRelay.Feed
