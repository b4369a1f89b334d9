import FeedRelay.Proofs.Feed.EndlessRetries
import FeedRelay.Proofs.Feed.ShutdownEnds

/-!
# Teardown is final

A task is torn down when the entry of its key is dropped, or when all entries are. The task then
winds down in its own time, and the call waits until it is over. A task that has lost its entry
never gets one again, so once the call has returned nothing comes of the task. Its key has no entry
until a call asks for it (`Service.Absent`).

## Main results

* `Service.teardown_is_final`: what a follower does after it has seen that it has to stop, and what
  is left of the tasks that a call has torn down. Its state is closed for good, or else the counter
  of attempts of the task was used up before.
* `Service.connecting_after_unsubscribe`: a task of the second kind, whose state stays connecting.
-/

namespace FeedRelay.Feed

namespace Service

variable {s t : Service} {move : Move} {reports : List Report} {n : Nat}

/-! ### Keys without an entry -/

/-- Whether a move asks for a key. -/
def Move.AsksFor (key : String) (move : Move) : Prop :=
  ∃ topic, move.topic? = some topic ∧ topic.displayKey = key

/-- A key has no entry, and no call is about to make one. -/
structure Absent (key : String) (s : Service) : Prop where
  keyOf_ne : ∀ n ∈ s.entries, s.keyOf n ≠ key
  topic_ne : ∀ topic, s.call.topic? = some topic → topic.displayKey ≠ key

theorem Absent.notMem_keys {key : String} (h : s.Absent key) : key ∉ s.roster.keys := by
  intro hmem
  obtain ⟨f, hf, hkey⟩ := List.mem_map.mp hmem
  obtain ⟨n, hn, hnf⟩ := List.mem_filterMap.mp hf
  exact h.keyOf_ne n hn ((keyOf_of_follower? hnf).trans hkey)

@[simp] theorem topic?_clear (s : Service) (order : List Nat) :
    (s.clear order).1.call.topic? = none := by
  cases order <;> rfl

/-- A key without an entry gets one only from a call that asks for it. -/
theorem Absent.step {key : String} (h : s.Absent key) (hs : s.Orderly)
    (hstep : machine s move = some (t, reports)) : t.Absent key ∨ move.AsksFor key := by
  have hkeep (hcall : ∀ topic, t.call.topic? = some topic → topic.displayKey ≠ key)
      (hnew : s.tasks.length ∈ t.entries → t.keyOf s.tasks.length ≠ key) : t.Absent key := by
    refine ⟨fun n hn => ?_, hcall⟩
    rcases mem_entries_of_machine hstep hn with hold | rfl
    · rw [(hs.keyOf_of_machine hstep (hs.lt_of_mem_entries hold)).2]
      exact h.keyOf_ne n hold
    · exact hnew hn
  have hold (hmem : s.tasks.length ∈ s.entries) : t.keyOf s.tasks.length ≠ key := by
    rw [(hs.keyOf_of_machine hstep (hs.lt_of_mem_entries hmem)).2]
    exact h.keyOf_ne _ hmem
  cases change_of_machine hstep with
  | refuse | answer => exact .inl h
  | @replace _ topic n hmove =>
    by_cases hkey : topic.displayKey = key
    · exact .inr ⟨topic, hmove, hkey⟩
    · refine .inl (hkeep ?_ fun hmem => hold (mem_entries_takeDown.mp hmem).1)
      rintro _ ⟨⟩
      exact hkey
  | @reach _ topic hmove =>
    by_cases hkey : topic.displayKey = key
    · exact .inr ⟨topic, hmove, hkey⟩
    · refine .inl (hkeep ?_ hold)
      rintro _ ⟨⟩
      exact hkey
  | leave =>
    exact .inl (hkeep (fun _ htopic => by cases htopic) fun hmem =>
      hold (mem_entries_takeDown.mp hmem).1)
  | shutdown =>
    exact .inl (hkeep (fun _ htopic => by simp at htopic) fun hmem => by simp at hmem)
  | @proceed topic n hcall =>
    refine .inl (hkeep ?_ hold)
    rintro _ ⟨⟩
    exact h.topic_ne topic (by rw [hcall]; rfl)
  | dropped | fail => exact .inl (hkeep (fun _ htopic => by cases htopic) hold)
  | clear =>
    exact .inl (hkeep (fun _ htopic => by simp at htopic) fun hmem => hold (by simpa using hmem))
  | @follow network topic url hcall =>
    refine .inl (hkeep (fun _ htopic => by cases htopic) fun _ => ?_)
    rw [keyOf_follow]
    exact h.topic_ne topic (by rw [hcall]; rfl)
  | occur => exact .inl (hkeep h.topic_ne hold)

theorem Absent.run {key : String} (h : s.Absent key) (hs : s.Orderly) {moves : List Move}
    (hrun : machine.run s moves = some (t, reports)) :
    t.Absent key ∨ ∃ move ∈ moves, move.AsksFor key := by
  refine (Machine.run_induction
    (motive := fun moves t _ => t.Orderly ∧ (t.Absent key ∨ ∃ move ∈ moves, move.AsksFor key))
    ⟨hs, .inl h⟩ (fun _ ⟨ht, hcases⟩ hstep => ⟨ht.step hstep, ?_⟩) hrun).2
  rcases hcases with habsent | ⟨move, hmem, hasks⟩
  · refine (habsent.step ht hstep).imp_right fun hasks => ?_
    exact ⟨_, List.mem_append_right _ (List.mem_singleton_self _), hasks⟩
  · exact .inr ⟨move, List.mem_append_left _ hmem, hasks⟩

/-! ### Calls that tear down -/

/-- The tasks that a call tears down. -/
def torn (s : Service) : Move → List Nat
  | .unsubscribe key => (s.entryOf key).toList
  | .shutdown _ => s.entries
  | _ => []

/-- Whether a call tears down a key. -/
def Move.tearsDown (key : String) : Move → Bool
  | .unsubscribe other => other = key
  | .shutdown _ => true
  | _ => false

theorem entries_of_shutdown {order : List Nat}
    (h : machine s (.shutdown order) = some (t, reports)) :
    t.entries = [] ∧ t.call.topic? = none := by
  obtain ⟨-, h⟩ := Option.ite_none_right_eq_some.mp h
  obtain rfl : (({ s with entries := [] } : Service).clear order).1 = t :=
    congrArg Prod.fst (Option.some.inj h)
  exact ⟨entries_clear _ order, topic?_clear _ order⟩

/-- A task that is torn down loses its entry. -/
theorem notMem_entries_of_torn (h : machine s move = some (t, reports)) (hn : n ∈ s.torn move) :
    n ∈ s.entries ∧ n ∉ t.entries := by
  cases move with
  | unsubscribe key =>
    obtain ⟨-, h⟩ := Option.ite_none_right_eq_some.mp h
    have hentry : s.entryOf key = some n := Option.mem_toList.mp hn
    obtain ⟨hmem, hkey⟩ := entryOf_eq_some hentry
    rw [leave, hentry] at h
    obtain ⟨rfl, -⟩ := Prod.mk.inj (Option.some.inj h)
    exact ⟨hmem, fun hleft => (mem_entries_takeDown.mp hleft).2 hkey⟩
  | shutdown order =>
    refine ⟨hn, fun hleft => ?_⟩
    rw [(entries_of_shutdown h).1] at hleft
    cases hleft
  | _ => cases hn

/-- A key that is torn down has no entry any more. -/
theorem absent_of_tearsDown {key : String} (hs : s.Orderly) (h : machine s move = some (t, reports))
    (hkey : move.tearsDown key = true) : t.Absent key := by
  cases move with
  | unsubscribe other =>
    obtain rfl : other = key := of_decide_eq_true hkey
    obtain ⟨hidle, hleave⟩ := Option.ite_none_right_eq_some.mp h
    cases hentry : s.entryOf other with
    | some n =>
      rw [leave, hentry] at hleave
      obtain ⟨rfl, -⟩ := Prod.mk.inj (Option.some.inj hleave)
      refine ⟨fun m hm => ?_, fun topic htopic => by cases htopic⟩
      obtain ⟨hm, hne⟩ := mem_entries_takeDown.mp hm
      rw [(hs.keyOf_of_machine h (hs.lt_of_mem_entries hm)).2]
      exact hne
    | none =>
      rw [leave, hentry] at hleave
      obtain ⟨rfl, -⟩ := Prod.mk.inj (Option.some.inj hleave)
      refine ⟨keyOf_ne_of_entryOf hentry, fun topic htopic => ?_⟩
      rw [Call.topic?_of_isIdle hidle] at htopic
      cases htopic
  | shutdown order =>
    obtain ⟨hentries, hcall⟩ := entries_of_shutdown h
    exact ⟨by simp [hentries], by simp [hcall]⟩
  | _ => cases hkey

/-- **Teardown is final.** From the moment at which a follower sees that it has to stop, wherever it
is and whatever happens then: it begins no attempt to connect and no delay before one. Without a
connection it has ended and hands on nothing. With one it hands on what remains of that connection,
of which the last event is the only one that closes, and ends (`Follower.WindsDown`); it can always
come to its end, and then its state is closed.

Once a call that tears down tasks has returned, these tasks tell the handler nothing any more, and
a key that was torn down is not among the keys until a move has asked for it. The state of each of
the tasks is closed for good, unless the counter of attempts of the task was used up, and then it is
connecting for good. That takes a policy which allows more attempts than can be counted, and as many
failures as can be counted before the task saw that it has to stop. -/
theorem teardown_is_final (base : Url) (policy : ReconnectPolicy) :
    (∀ {topic : Topic} {url : Option Url} {before later : List Occurrence} {f g u : Follower}
        {seen stopped more : List Action},
      Follower.machine.run (Follower.start topic policy url).1 before = some (f, seen) →
      f.step .stop = some (g, stopped) →
      Follower.machine.run g later = some (u, more) →
      (∀ action ∈ stopped ++ more, action.isRetry = false) ∧
      ∃ told, toldOf (stopped ++ more) = told.map (topic, ·) ∧
        (f.connection = none → told = [] ∧ u.pump.phase = .ended) ∧
        (∀ s, f.connection = some s →
          u.WindsDown (s.close.receiveAll (signalsIn later)) told ∧
          (u.pump.phase ≠ .ended → ∃ n v rest,
            Follower.machine.run u (.signal .stop :: List.replicate n .event) = some (v, rest) ∧
              v.pump.phase = .ended)) ∧
        (u.pump.phase = .ended → u.state = .closed)) ∧
    (∀ {moves between later : List Move} {call : Move} {s t u w : Service}
        {reports first second third : List Report},
      machine.run (start base policy) moves = some (s, reports) →
      machine s call = some (t, first) →
      machine.run t between = some (u, second) → u.call.isIdle = true →
      machine.run u later = some (w, third) →
      (∀ n ∈ s.torn call, (∀ topic event, .told n topic event ∉ third) ∧
        ∃ f, u.follower? n = some f ∧ w.follower? n = some f ∧
          (f.state = .closed ↔ f.pump.phase ≠ .stuck) ∧
          (f.pump.phase = .stuck → f.state = .connecting ∧ policy.AllowsUncounted ∧
            .stop ∉ stepsOf n (moves ++ call :: between) ∧ Pump.attemptLimit ≤
              (stepsOf n (moves ++ call :: between)).countP Occurrence.isFailure + 1)) ∧
      ∀ key, call.tearsDown key = true → key ∈ w.roster.keys →
        ∃ move ∈ between ++ later, move.AsksFor key) := by
  constructor
  · intro topic url before later f g u seen stopped more hbefore hstop hlater
    obtain ⟨hstart, htopic, -, -⟩ := Follower.start_spec topic policy url
    obtain ⟨hf, hftopic⟩ := Follower.sound_of_run hstart hbefore
    have hg := hf.step_spec hstop
    obtain ⟨hu, -⟩ := Follower.sound_of_run hg.sound hlater
    cases hconnection : f.connection with
    | none =>
      obtain ⟨rfl, rfl⟩ := Follower.ended_of_stop hf hconnection hstop
      obtain ⟨rfl, rfl⟩ := Follower.run_of_isOver hg.sound rfl hlater
      exact ⟨by simp, [], rfl, fun _ => ⟨rfl, rfl⟩, fun s hs => (by cases hs),
        Follower.state_eq_closed hu⟩
    | some s =>
      obtain ⟨hdown, rfl⟩ := Follower.windsDown_of_stop hf hconnection hstop
      obtain ⟨hquiet, told, htold, hwinds⟩ := hdown.run hg.sound hlater
      rw [List.nil_append] at hwinds
      refine ⟨?_, told, ?_, fun hnone => (by cases hnone), ?_, Follower.state_eq_closed hu⟩
      · rintro action hmem
        rcases List.mem_cons.mp hmem with rfl | hmem
        · rfl
        · exact hquiet action hmem
      · rw [hg.topic_eq, hftopic, htopic] at htold
        exact htold
      · rintro _ ⟨⟩
        exact ⟨hwinds, hwinds.exists_end hu (by simp [Subscription.close])⟩
  · intro moves between later call s t u w reports first second third hmoves hcall hbetween hidle
      hlater
    have hs := (reached_of_run hmoves).orderly
    have ht := hs.step hcall
    refine ⟨fun n hn => ?_, fun key hkey hmem => ?_⟩
    · obtain ⟨hentry, hgone⟩ := notMem_entries_of_torn hcall hn
      obtain ⟨hlt, -⟩ := hs.keyOf_of_machine hcall (hs.lt_of_mem_entries hentry)
      obtain ⟨hu, hlt, hleft⟩ := notMem_entries_of_run ht hbetween hlt hgone
      obtain ⟨r, hr⟩ := exists_follower? hlt
      have hover := hu.isOver_of_notMem hidle hr hleft
      obtain ⟨hw, hquiet⟩ := over_of_run hu hlater hr hover
      have hall := machine.run_append hmoves
        (machine.run_append (machine.run_singleton.mpr hcall) hbetween)
      have hclosed : r.state = .closed ↔ r.pump.phase ≠ .stuck :=
        (hu.closed_iff hr).trans (and_iff_right hover)
      exact ⟨hquiet, r, hr, hw, hclosed, spent_of_stuck hall hr⟩
    · have hrun := machine.run_append hbetween hlater
      exact ((absent_of_tearsDown hs hcall hkey).run ht hrun).resolve_left fun habsent =>
        habsent.notMem_keys hmem

/-- A follower whose upstream closes before the follower sees that it has to stop, and a service
that drops the task of a key and follows the key again: the follower hands on what arrived and does
not connect again, and the old task stays silent and closed while its key is asked for again. -/
theorem teardown_of_late_stop :
    (∃ f g u seen stopped more,
      Follower.machine.run (Follower.start ⟨"a", none, none, []⟩
          (.exponential (.ofMilliseconds 500) (.ofMilliseconds 8000))
          (some Topic.belowSlashed)).1
        [.event, .signal (.frame (.binary [1])), .signal .ended] = some (f, seen) ∧
      f.step .stop = some (g, stopped) ∧
      Follower.machine.run g [.event, .event] = some (u, more) ∧
      (toldOf (stopped ++ more)).map Prod.snd =
        [.message ⟨"a", .binary [1]⟩, .closed (.remote none)] ∧
      (∀ action ∈ stopped ++ more, action.isRetry = false) ∧ u.state = .closed) ∧
    ∃ s t u w reports first second third,
      machine.run (start Topic.slashed .disabled)
        [.subscribe "a" none, .connected fun _ => none, .occur 0 .event] = some (s, reports) ∧
      machine s (.unsubscribe "a") = some (t, first) ∧
      machine.run t [.occur 0 .stop, .occur 0 (.signal .stop), .occur 0 .event, .resume] =
        some (u, second) ∧
      machine.run u [.subscribe "a" none, .connected fun _ => none, .occur 1 .event] =
        some (w, third) ∧
      s.torn (.unsubscribe "a") = [0] ∧ w.roster.keys = ["a"] ∧
      (∀ topic event, .told 0 topic event ∉ third) ∧
      (∃ f, w.follower? 0 = some f ∧ f.state = .closed) ∧
      ∃ move ∈ ([.occur 0 .stop, .occur 0 (.signal .stop), .occur 0 .event, .resume] ++
        [.subscribe "a" none, .connected fun _ => none, .occur 1 .event] : List Move),
        move.AsksFor "a" := by
  constructor
  · have hrun : ((Follower.machine.run (Follower.start ⟨"a", none, none, []⟩
        (.exponential (.ofMilliseconds 500) (.ofMilliseconds 8000))
        (some Topic.belowSlashed)).1
        [.event, .signal (.frame (.binary [1])), .signal .ended]).bind fun before =>
          (before.1.step .stop).bind fun stop =>
            (Follower.machine.run stop.1 [.event, .event]).map fun later =>
              ((toldOf (stop.2 ++ later.2)).map Prod.snd, later.1.pump.phase)) =
        some ([.message ⟨"a", .binary [1]⟩, .closed (.remote none)], .ended) := by
      decide +kernel
    obtain ⟨⟨f, seen⟩, hbefore, hrun⟩ := Option.bind_eq_some_iff.mp hrun
    obtain ⟨⟨g, stopped⟩, hstop, hrun⟩ := Option.bind_eq_some_iff.mp hrun
    obtain ⟨⟨u, more⟩, hlater, hseen⟩ := Option.map_eq_some_iff.mp hrun
    obtain ⟨htold, hphase⟩ := Prod.mk.inj hseen
    obtain ⟨hquiet, -, -, -, -, hclosed⟩ := (teardown_is_final Topic.slashed _).1 hbefore hstop hlater
    exact ⟨f, g, u, seen, stopped, more, hbefore, hstop, hlater, htold, hquiet, hclosed hphase⟩
  · have hrun : ((machine.run (start Topic.slashed .disabled)
        [.subscribe "a" none, .connected fun _ => none, .occur 0 .event]).bind fun before =>
          (machine before.1 (.unsubscribe "a")).bind fun call =>
            (machine.run call.1 [.occur 0 .stop, .occur 0 (.signal .stop), .occur 0 .event,
              .resume]).bind fun between =>
              (machine.run between.1
                [.subscribe "a" none, .connected fun _ => none, .occur 1 .event]).map
                fun later => (before.1.torn (.unsubscribe "a"), between.1.call.isIdle,
                  (between.1.follower? 0).map (·.pump.phase), later.1.roster.keys)) =
        some ([0], true, some .ended, ["a"]) := by
      decide +kernel
    obtain ⟨⟨s, reports⟩, hmoves, hrun⟩ := Option.bind_eq_some_iff.mp hrun
    obtain ⟨⟨t, first⟩, hcall, hrun⟩ := Option.bind_eq_some_iff.mp hrun
    obtain ⟨⟨u, second⟩, hbetween, hrun⟩ := Option.bind_eq_some_iff.mp hrun
    obtain ⟨⟨w, third⟩, hlater, hseen⟩ := Option.map_eq_some_iff.mp hrun
    simp only [Prod.mk.injEq] at hseen
    obtain ⟨htorn, hidle, hphase, hkeys⟩ := hseen
    obtain ⟨hover, hkey⟩ :=
      (teardown_is_final Topic.slashed .disabled).2 hmoves hcall hbetween hidle hlater
    obtain ⟨hquiet, f, hu, hw, hclosed, -⟩ := hover 0 (by rw [htorn]; simp)
    rw [hu, Option.map_some, Option.some.injEq] at hphase
    have hclosed : f.state = .closed := hclosed.mpr (by rw [hphase]; nofun)
    have hasked := hkey "a" rfl (by rw [hkeys]; exact List.mem_singleton_self _)
    exact ⟨s, t, u, w, reports, first, second, third, hmoves, hcall, hbetween, hlater, htorn, hkeys,
      hquiet, ⟨f, hw, hclosed⟩, hasked⟩

/-! ### A task that is stuck -/

variable {topic : Topic} {policy : ReconnectPolicy}

/-- A task in an outage under a policy without a limit can use up its counter of attempts. -/
theorem exists_stuck {task : Task} (hpolicy : policy.Unlimited) (htask : s.tasks[n]? = some task)
    (hstart : task.follower = (Follower.start topic policy none).1) :
    ∃ (occurrences : List Occurrence) (t : Service) (reports : List Report) (f : Follower),
      occurrences.countP Occurrence.isFailure + 1 = Pump.attemptLimit ∧
      machine.run s (occurrences.map (.occur n)) = some (t, reports) ∧ t.call = s.call ∧
      t.entries = s.entries ∧ t.follower? n = some f ∧ f.topic = topic ∧
      f.pump.phase = .stuck := by
  have hcount : Pump.attemptLimit - 1 + 1 = Pump.attemptLimit := by decide +kernel
  obtain ⟨occurrences, f, marks, hrun, hstop, hopened, hfailures⟩ :=
    Follower.exists_run_of_failures hpolicy (.start topic) Follower.refusedAttempt
      (Nat.lt_of_succ_le (Nat.le_of_eq hcount))
  have hlasts := Follower.lasts_of_run hpolicy (.start topic) hrun hstop hopened
  rw [hfailures] at hlasts
  obtain ⟨actions, hgo⟩ := Follower.exists_run_of_chronicle hrun
  obtain ⟨hsound, htopic, -, -⟩ := Follower.start_spec topic policy none
  rw [← hstart] at hgo
  obtain ⟨t, reports, hmoves, -, hcall, hentries, hf⟩ :=
    run_task htask (fun hmem => absurd hmem hstop) hgo
  rw [hstart] at hgo
  have hsame := (Follower.sound_of_run hsound hgo).2
  exact ⟨occurrences, t, reports, f, by rw [hfailures, hcount], hmoves, hcall, hentries, hf,
    hsame.trans htopic, hlasts.phase_eq_stuck hcount⟩

/-- To unsubscribe from a key whose task is over takes the task away, and the call returns at its
next step. -/
theorem unsubscribe_of_isOver {key : String} (hcall : s.call = .idle)
    (hentry : s.entryOf key = some n) (hover : s.isOver n = true) :
    machine s (.unsubscribe key) = some (s.takeDown key n (.dropping n), []) ∧
      machine (s.takeDown key n (.dropping n)) .resume =
        some ({ s.takeDown key n (.dropping n) with call := .idle },
          [.returned (.unsubscribed true)]) := by
  have hleft : (s.takeDown key n (.dropping n)).isOver n = true := by
    rwa [isOver, follower?, followers_takeDown]
  refine ⟨?_, if_pos hleft⟩
  simp only [machine, hcall, Call.isIdle, if_true, leave, hentry]

/-- The counter of attempts of a task is used up, and then its key is unsubscribed from. The call
takes the task away and returns, and the state of the task is connecting for good. -/
theorem connecting_after_unsubscribe :
    ∃ moves s t u reports,
      machine.run (start Topic.slashed (.exponential (.ofMilliseconds 0) (.ofMilliseconds 0)))
        moves = some (s, reports) ∧
      (stepsOf 0 moves).countP Occurrence.isFailure = 4294967295 ∧
      s.torn (.unsubscribe "a") = [0] ∧ machine s (.unsubscribe "a") = some (t, []) ∧
      machine t .resume = some (u, [.returned (.unsubscribed true)]) ∧ u.call.isIdle = true ∧
      ∀ later w third, machine.run u later = some (w, third) →
        ∃ f, w.follower? 0 = some f ∧ f.state = .connecting := by
  let policy : ReconnectPolicy := .exponential (.ofMilliseconds 0) (.ofMilliseconds 0)
  let topic : Topic := ⟨"a", none, none, []⟩
  obtain ⟨begun, first, hbegin, htasks, hentries, hcall⟩ : ∃ begun first,
      machine.run (start Topic.slashed policy)
        [.subscribe "a" none, .connected fun _ => some (.io .refused)] = some (begun, first) ∧
      begun.tasks = [⟨(Follower.start topic policy none).1, false, []⟩] ∧
      begun.entries = [0] ∧ begun.call = .idle :=
    ⟨_, _, rfl, rfl, rfl, rfl⟩
  have hunlimited : policy.Unlimited := ⟨rfl, rfl⟩
  obtain ⟨occurrences, s, reports, f, hfailures, hmoves, hcall', hentries', hf, htopic, hstuck⟩ :=
    exists_stuck (s := begun) (n := 0) hunlimited (by rw [htasks]; rfl) rfl
  have hrun := machine.run_append hbegin hmoves
  have hkey : s.keyOf 0 = "a" := by
    rw [keyOf_of_follower? hf, Follower.key, htopic]
    decide +kernel
  have hentry : s.entryOf "a" = some 0 := by
    rw [entryOf, hentries', hentries]
    simp [hkey]
  have hover : s.isOver 0 = true := by
    rw [isOver, hf, Option.any_some, Follower.isOver, hstuck]
    rfl
  obtain ⟨hleave, hresume⟩ := unsubscribe_of_isOver (hcall'.trans hcall) hentry hover
  have hall := machine.run_append hrun
    (machine.run_append (machine.run_singleton.mpr hleave) (machine.run_singleton.mpr hresume))
  have hlast : 4294967295 + 1 = Pump.attemptLimit := by decide +kernel
  refine ⟨_, s, _, _, _, hrun, ?_, by rw [torn, hentry]; rfl, hleave, hresume, rfl,
    fun later w third hlater => ?_⟩
  · rw [stepsOf_append, stepsOf_map_occur, List.countP_append]
    have hnone : stepsOf 0 [.subscribe "a" none, .connected fun _ => some (.io .refused)] = [] :=
      rfl
    rw [hnone, List.countP_nil]
    omega
  · have hleft : (s.takeDown "a" 0 (.dropping 0)).follower? 0 = some f := by
      rwa [follower?, followers_takeDown]
    exact ⟨f, (reached_of_run hall).orderly.connecting_of_stuck hlater hleft hstuck⟩

end Service

end FeedRelay.Feed
