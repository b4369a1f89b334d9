import FeedRelay.Proofs.Feed.FailedSubscribe
import FeedRelay.Proofs.Feed.Outages
import FeedRelay.Proofs.Feed.TaskHistory

/-!
# A shutdown comes to its end

A call that waits for a task has let the task see that it has to stop
(`Service.heeds_of_awaited`), and a follower that may see this can come to its end wherever it is
(`Follower.exists_over`). So a service that tears down all tasks can always go on until the last of
them is over (`Service.exists_cleared`). It can do so by itself: nobody else has to do anything. A
subscription, likewise, can return whatever the network answers (`Service.exists_subscribed`).
-/

namespace FeedRelay.Feed

/-- Whether a follower makes a step by itself: it sees that it has to stop, its reader does, or an
event that waits is handed on. -/
def Occurrence.isOwn : Occurrence → Bool
  | .stop | .signal .stop | .event => true
  | _ => false

/-- Whether a service makes a move by itself: its call goes on, or a follower makes a step of its
own. -/
def Service.Move.isOwn : Service.Move → Bool
  | .resume => true
  | .occur _ occurrence => occurrence.isOwn
  | _ => false

theorem Service.Move.isInner_of_isOwn {move : Service.Move} (h : move.isOwn = true) :
    move.isInner = true := by
  cases move with
  | resume | occur => rfl
  | _ => cases h

namespace Follower

variable {f g : Follower} {occurrences : List Occurrence} {actions : List Action}

/-- A follower stays attentive. -/
theorem Attentive.run (hf : f.Attentive) (hsound : f.Sound)
    (h : machine.run f occurrences = some (g, actions)) : g.Attentive :=
  (Machine.run_induction (motive := fun _ g _ => g.Sound ∧ g.Attentive) ⟨hsound, hf⟩
    (fun _ ⟨hg, hattentive⟩ hstep => ⟨(hg.step_spec hstep).sound, hattentive.step hg hstep⟩) h).2

/-- Wherever a follower is, it can see that it has to stop and come to its end by itself. -/
theorem exists_over (hf : f.Sound) (hattentive : f.Attentive) :
    ∃ occurrences g actions, (∀ occurrence ∈ occurrences, occurrence.isOwn = true) ∧
      machine.run f occurrences = some (g, actions) ∧ g.isOver = true := by
  have hstop (hnone : f.connection = none) {p : Pump} (hp : f.pump.step .stop = some (p, [])) :
      ∃ occurrences g actions, (∀ occurrence ∈ occurrences, occurrence.isOwn = true) ∧
        machine.run f occurrences = some (g, actions) ∧ g.isOver = true := by
    have hstep : f.step .stop = some ({ pump := p, connection := none }, []) :=
      advance_eq_some.mpr ⟨p, hp, by rw [hnone]; simp⟩
    obtain ⟨heq, -⟩ := ended_of_stop hf hnone hstep
    exact ⟨[.stop], _, _, by simp [Occurrence.isOwn], machine.run_singleton.mpr hstep,
      by rw [heq]; rfl⟩
  cases hphase : f.pump.phase with
  | stuck => exact ⟨[], f, [], by simp, rfl, by rw [isOver, hphase]; rfl⟩
  | ended => exact ⟨[], f, [], by simp, rfl, by rw [isOver, hphase]; rfl⟩
  | waiting attempt delay =>
    exact hstop (hf.connection_eq_none (by rw [Pump.isDriving, hphase]))
      (p := f.pump.finish) (by simp only [Pump.step, hphase])
  | opening attempt =>
    exact hstop (hf.connection_eq_none (by rw [Pump.isDriving, hphase]))
      (p := f.pump.finish) (by simp only [Pump.step, hphase])
  | driving closing =>
    obtain ⟨s, hs⟩ := hf.exists_connection (by rw [Pump.isDriving, hphase])
    obtain rfl : closing = s.closing :=
      Phase.driving.inj (hphase.symm.trans (hattentive s hs).1)
    cases hclosing : s.closing with
    | true =>
      -- The follower has seen it before: what remains is its connection as it is.
      rw [hclosing] at hphase
      have hdown : f.WindsDown s [] := .driving hphase hs rfl (by simp)
      obtain ⟨n, g, actions, hrun, hg⟩ := hdown.exists_end hf hclosing (by simp [hphase])
      exact ⟨_, g, actions, by simp +contextual [Occurrence.isOwn, List.mem_replicate], hrun,
        by rw [isOver, hg]; rfl⟩
    | false =>
      rw [hclosing] at hphase
      obtain ⟨⟨g, stopped⟩, hstep⟩ : ∃ next, f.step .stop = some next := by
        simp [Follower.step, advance, Pump.step, hphase]
      obtain ⟨hdown, -⟩ := windsDown_of_stop hf hs hstep
      have hended : g.pump.phase ≠ .ended := by
        obtain ⟨p, hp, rfl⟩ := advance_eq_some.mp hstep
        simp only [Pump.step, hphase, Option.some.injEq, Prod.mk.injEq] at hp
        rw [← hp.1]
        simp
      obtain ⟨n, u, actions, hrun, hu⟩ := hdown.exists_end (hf.step_spec hstep).sound
        (by simp [Subscription.close]) hended
      have hall := machine.run_append (machine.run_singleton.mpr hstep) hrun
      exact ⟨_, u, _, by simp +contextual [Occurrence.isOwn, List.mem_replicate], hall,
        by rw [isOver, hu]; rfl⟩

end Follower

namespace Service

variable {s t : Service} {move : Move} {moves before : List Move} {reports seen : List Report}
  {n : Nat} {rest : List Nat} {base : Url} {policy : ReconnectPolicy}

/-- A task may see that it has to stop. -/
def Heeds (s : Service) (n : Nat) : Prop :=
  ∃ task, s.tasks[n]? = some task ∧ task.dismissed = true

theorem heeds_dismiss (hn : n < s.tasks.length) : (s.dismiss n).Heeds n := by
  refine ⟨{ s.tasks[n] with dismissed := true }, ?_, rfl⟩
  rw [dismiss, List.getElem?_modify_eq, List.getElem?_eq_getElem hn]
  rfl

/-- A call that waits for a task has let it see that it has to stop. -/
theorem heeds_of_awaited (h : machine.run (start base policy) moves = some (s, reports)) :
    ∀ n rest, s.call.awaited = n :: rest → s.Heeds n := by
  refine (Machine.run_induction (motive := fun _ s _ => s.Orderly ∧
    ∀ n rest, s.call.awaited = n :: rest → s.Heeds n)
    ⟨orderly_start base policy, fun n rest h => by cases h⟩ ?_ h).2
  rintro _ s _ move t _ - ⟨hs, hheeds⟩ hstep
  refine ⟨hs.step hstep, fun m left hawaited => ?_⟩
  have hheld {n : Nat} (hn : n ∈ s.held) : n < s.tasks.length := by
    rw [← length_followers]
    exact hs.lt_length n hn
  have hclear {u : Service} {order : List Nat} (hsub : ∀ n ∈ order, n < u.tasks.length)
      (hawaited : (u.clear order).1.call.awaited = m :: left) : (u.clear order).1.Heeds m := by
    cases order with
    | nil => cases hawaited
    | cons n rest =>
      cases hawaited
      exact heeds_dismiss (hsub m List.mem_cons_self)
  cases change_of_machine hstep with
  | refuse | answer => exact hheeds m left hawaited
  | replace hmove hidle hlive hn =>
    cases hawaited
    exact heeds_dismiss (s := s.withdraw _)
      (hheld (List.mem_append_left _ (entryOf_eq_some hn).1))
  | leave hidle hn =>
    cases hawaited
    exact heeds_dismiss (s := s.withdraw _)
      (hheld (List.mem_append_left _ (entryOf_eq_some hn).1))
  | reach | proceed | dropped | fail | follow => cases hawaited
  | shutdown hidle horder =>
    exact hclear (u := { s with entries := [] })
      (fun n hn => hheld (List.mem_append_left _ (horder.mem_iff.mp hn))) hawaited
  | clear hcall hover =>
    refine hclear (fun n hn => hheld (List.mem_append_right _ ?_)) hawaited
    rw [hcall]
    exact List.mem_cons_of_mem _ hn
  | @occur n occurrence task g actions htask hhears hgo =>
    obtain ⟨old, hold, hdismissed⟩ := hheeds m left hawaited
    by_cases hm : n = m
    · subst hm
      obtain rfl := Option.some.inj (htask.symm.trans hold)
      exact ⟨task.goOn g, List.getElem?_set_self (List.getElem?_eq_some_iff.mp htask).1,
        hdismissed⟩
    · exact ⟨old, (List.getElem?_set_ne hm).trans hold, hdismissed⟩

/-- What happens to the follower of a task can happen to the task, unless it sees that it has to
stop and the task may not see that. -/
theorem run_task {task : Task} {occurrences : List Occurrence} {g : Follower}
    {actions : List Action} (htask : s.tasks[n]? = some task)
    (hdismissed : .stop ∈ occurrences → task.dismissed = true)
    (h : Follower.machine.run task.follower occurrences = some (g, actions)) :
    ∃ t reports, machine.run s (occurrences.map (.occur n)) = some (t, reports) ∧
      (∀ report ∈ reports, ∃ topic event, report = .told n topic event) ∧
      t.call = s.call ∧ t.entries = s.entries ∧ t.follower? n = some g := by
  induction occurrences generalizing s task actions with
  | nil =>
    cases h
    exact ⟨s, [], rfl, by simp, rfl, rfl, follower?_eq_some.mpr ⟨task, htask, rfl⟩⟩
  | cons occurrence rest ih =>
    obtain ⟨⟨f, first⟩, hfirst, h⟩ := Option.bind_eq_some_iff.mp h
    obtain ⟨⟨_, later⟩, hrest, heq⟩ := Option.map_eq_some_iff.mp h
    obtain ⟨rfl, -⟩ := Prod.mk.inj heq
    have hhears : task.hears occurrence = true := by
      cases occurrence with
      | stop => exact hdismissed List.mem_cons_self
      | _ => rfl
    have hstep : machine s (.occur n occurrence) = some (s.put n (task.goOn f),
        (toldOf first).map fun told => .told n told.1 told.2) := by
      have hfirst : task.follower.step occurrence = some (f, first) := hfirst
      rw [machine, occur, htask, Option.bind_some, if_pos hhears, hfirst]
      rfl
    have hput : (s.put n (task.goOn f)).tasks[n]? = some (task.goOn f) :=
      List.getElem?_set_self (List.getElem?_eq_some_iff.mp htask).1
    obtain ⟨t, more, hrun, htold, hcall, hentries, hg⟩ :=
      ih hput (fun hstop => hdismissed (List.mem_cons_of_mem _ hstop)) hrest
    refine ⟨t, _, machine.run_append (machine.run_singleton.mpr hstep) hrun, ?_, hcall, hentries,
      hg⟩
    intro report hreport
    rcases List.mem_append.mp hreport with hreport | hreport
    · obtain ⟨told, -, rfl⟩ := List.mem_map.mp hreport
      exact ⟨told.1, told.2, rfl⟩
    · exact htold report hreport

/-- A task that a call waits for can come to its end by itself. -/
theorem exists_isOver (h : machine.run (start base policy) before = some (s, seen))
    (hawaited : s.call.awaited = n :: rest) :
    ∃ moves t reports, (∀ move ∈ moves, move.isOwn = true) ∧
      machine.run s moves = some (t, reports) ∧
      (∀ report ∈ reports, ∃ m topic event, report = .told m topic event) ∧
      t.call = s.call ∧ t.isOver n = true := by
  obtain ⟨task, htask, hdismissed⟩ := heeds_of_awaited h n rest hawaited
  obtain ⟨topic, url, actions, hrun⟩ := exists_start h (follower?_eq_some.mpr ⟨task, htask, rfl⟩)
  obtain ⟨hstarted, -⟩ := Follower.start_spec topic policy url
  have hattentive := (Follower.attentive_start topic policy url).run hstarted hrun
  obtain ⟨occurrences, g, _, hown, hgo, hover⟩ :=
    Follower.exists_over (Follower.sound_of_run hstarted hrun).1 hattentive
  obtain ⟨t, reports, hmoves, htold, hcall, -, hg⟩ := run_task htask (fun _ => hdismissed) hgo
  refine ⟨_, t, reports, fun move hmove => ?_, hmoves, fun report hreport => ?_, hcall, ?_⟩
  · obtain ⟨occurrence, hmem, rfl⟩ := List.mem_map.mp hmove
    exact hown occurrence hmem
  · exact ⟨n, htold report hreport⟩
  · rw [isOver, hg]
    exact hover

/-- A service that tears down tasks can always go on by itself until all of them are over. -/
theorem exists_cleared (h : machine.run (start base policy) before = some (s, seen))
    (hcall : s.call = .clearing n rest) :
    ∃ moves t reports, (∀ move ∈ moves, move.isOwn = true) ∧
      machine.run s moves = some (t, reports ++ [.returned .cleared]) ∧
      (∀ report ∈ reports, ∃ m topic event, report = .told m topic event) ∧ t.call = .idle := by
  induction rest generalizing s n before seen with
  | nil =>
    obtain ⟨moves, t, reports, hown, hrun, htold, hsame, hover⟩ :=
      exists_isOver h (show s.call.awaited = [n] by rw [hcall]; rfl)
    rw [hcall] at hsame
    have hlast : machine t .resume = some ({ t with call := .idle }, [.returned .cleared]) := by
      simp only [machine, resume, hsame, hover, if_true, clear]
    refine ⟨moves ++ [.resume], { t with call := .idle }, reports, ?_,
      machine.run_append hrun (machine.run_singleton.mpr hlast), htold, rfl⟩
    simpa [or_imp, forall_and] using ⟨hown, rfl⟩
  | cons next rest ih =>
    obtain ⟨moves, t, reports, hown, hrun, htold, hsame, hover⟩ :=
      exists_isOver h (show s.call.awaited = n :: next :: rest by rw [hcall]; rfl)
    rw [hcall] at hsame
    have hnext : machine t .resume = some ({ t.dismiss next with call := .clearing next rest },
        []) := by
      simp only [machine, resume, hsame, hover, if_true, clear]
    have hgo := machine.run_append hrun (machine.run_singleton.mpr hnext)
    obtain ⟨others, u, more, hown', hrun', htold', hidle⟩ := ih (machine.run_append h hgo) rfl
    have hall := machine.run_append hgo hrun'
    rw [List.append_nil, ← List.append_assoc] at hall
    refine ⟨_, u, reports ++ more, fun move hmove => ?_, hall, fun report hreport => ?_, hidle⟩
    · rcases List.mem_append.mp hmove with hmove | hmove
      · rcases List.mem_append.mp hmove with hmove | hmove
        · exact hown move hmove
        · rw [List.mem_singleton.mp hmove]
          rfl
      · exact hown' move hmove
    · rcases List.mem_append.mp hreport with hreport | hreport
      · exact htold report hreport
      · exact htold' report hreport

/-! ### What calls and their steps report -/

/-- A subscription is refused at once, or it goes on. -/
theorem subscribeTopic_cases {topic : Topic}
    (h : machine s (.subscribeTopic topic) = some (t, reports)) :
    (t = s ∧ ∃ failure, reports = [.returned (.subscribed (.error failure))]) ∨
      t.call.topic? = some topic ∧ reports = [] := by
  cases change_of_machine h with
  | refuse => exact .inl ⟨rfl, _, rfl⟩
  | replace hmove =>
    cases hmove
    exact .inr ⟨rfl, rfl⟩
  | reach hmove =>
    cases hmove
    exact .inr ⟨rfl, rfl⟩
  | answer hmove => cases hmove

/-- A shutdown takes all entries away, and returns at once if there are none. -/
theorem shutdown_cases {order : List Nat} (h : machine s (.shutdown order) = some (t, reports)) :
    t.entries = [] ∧ (t.call = .idle ∧ reports = [.returned .cleared] ∨
      t.call.isClearing = true ∧ reports = []) := by
  obtain ⟨-, h⟩ := Option.ite_none_right_eq_some.mp h
  cases order with
  | nil =>
    cases h
    exact ⟨rfl, .inl ⟨rfl, rfl⟩⟩
  | cons n rest =>
    cases h
    exact ⟨rfl, .inr ⟨rfl, rfl⟩⟩

/-- What a step of a call or of a task comes to: the call goes on, while the handler may be told of
something, or the call returns. -/
inductive Goes (s t : Service) (reports : List Report) : Prop
  | on (hreports : ∀ report ∈ reports, ∃ n topic event, report = .told n topic event)
      (hidle : t.call.isIdle = s.call.isIdle) (htopic : t.call.topic? = s.call.topic?)
      (hclearing : t.call.isClearing = s.call.isClearing) (hentries : t.entries = s.entries)
  | subscribed {topic : Topic} {result : Except Failure State} (hcall : s.call.topic? = some topic)
      (hidle : t.call = .idle) (hreports : reports = [.returned (.subscribed result)])
  | unsubscribed {n : Nat} (hcall : s.call = .dropping n)
  | cleared (hcall : s.call.isClearing = true) (hidle : t.call = .idle)
      (hreports : reports = [.returned .cleared]) (hentries : t.entries = s.entries)

theorem goes_of_resume (h : machine s .resume = some (t, reports)) : s.Goes t reports := by
  have h : s.resume = some (t, reports) := h
  unfold resume at h
  split at h
  · rename_i topic n hcall
    obtain ⟨-, h⟩ := Option.ite_none_right_eq_some.mp h
    obtain ⟨rfl, rfl⟩ := Prod.mk.inj (Option.some.inj h)
    exact .on (by simp) (by rw [hcall]; rfl) (by rw [hcall]; rfl) (by rw [hcall]; rfl) rfl
  · rename_i n hcall
    exact .unsubscribed hcall
  · rename_i n rest hcall
    obtain ⟨-, h⟩ := Option.ite_none_right_eq_some.mp h
    cases rest with
    | nil =>
      obtain ⟨rfl, rfl⟩ := Prod.mk.inj (Option.some.inj h)
      exact .cleared (by rw [hcall]; rfl) rfl rfl rfl
    | cons next rest =>
      obtain ⟨rfl, rfl⟩ := Prod.mk.inj (Option.some.inj h)
      exact .on (by simp) (by rw [hcall]; rfl) (by rw [hcall]; rfl) (by rw [hcall]; rfl) rfl
  · cases h

theorem goes_of_connected {network : Connect}
    (h : machine s (.connected network) = some (t, reports)) : s.Goes t reports := by
  obtain ⟨topic, hcall, ⟨url, address, -, hfollow⟩ | ⟨failure, rfl, rfl, -⟩⟩ := connected_cases h
  · obtain ⟨rfl, rfl⟩ := Prod.ext_iff.mp hfollow
    exact .subscribed (by rw [hcall]; rfl) rfl (reports_follow s topic address)
  · exact .subscribed (by rw [hcall]; rfl) rfl rfl

/-- A step of a call or of a task comes to one of these. -/
theorem goes_of_inner (hinner : move.isInner = true) (h : machine s move = some (t, reports)) :
    s.Goes t reports := by
  cases move with
  | resume => exact goes_of_resume h
  | connected network => exact goes_of_connected h
  | occur n occurrence =>
    obtain ⟨task, -, h⟩ := Option.bind_eq_some_iff.mp h
    obtain ⟨-, h⟩ := Option.ite_none_right_eq_some.mp h
    obtain ⟨⟨g, actions⟩, -, h⟩ := Option.map_eq_some_iff.mp h
    obtain ⟨rfl, rfl⟩ := Prod.mk.inj h
    refine .on (fun report hreport => ?_) rfl rfl rfl rfl
    obtain ⟨⟨topic, event⟩, -, rfl⟩ := List.mem_map.mp hreport
    exact ⟨n, topic, event, rfl⟩
  | _ => cases hinner

/-- An attempt to connect comes out, and then the subscription returns. -/
theorem exists_connected {topic : Topic} (hcall : s.call = .connecting topic)
    (network : Connect) :
    ∃ t result, machine s (.connected network) = some (t, [.returned (.subscribed result)]) ∧
      t.call = .idle := by
  obtain ⟨⟨t, reports⟩, hstep⟩ : ∃ next, machine s (.connected network) = some next := by
    rw [machine, hcall]
    exact ⟨_, rfl⟩
  obtain ⟨other, -, ⟨url, address, -, hfollow⟩ | ⟨failure, rfl, rfl, -⟩⟩ := connected_cases hstep
  · obtain ⟨rfl, rfl⟩ := Prod.ext_iff.mp hfollow
    rw [reports_follow] at hstep
    exact ⟨_, _, hstep, rfl⟩
  · exact ⟨_, _, hstep, rfl⟩

/-- A subscription that is under way can return by itself, whatever the network answers. -/
theorem exists_subscribed {topic : Topic}
    (h : machine.run (start base policy) before = some (s, seen))
    (hcall : s.call.topic? = some topic) (network : Connect) :
    ∃ moves t reports result, (∀ move ∈ moves, move.isOwn = true ∨ move = .connected network) ∧
      machine.run s moves = some (t, reports ++ [.returned (.subscribed result)]) ∧
      (∀ report ∈ reports, ∃ m topic event, report = .told m topic event) ∧ t.call = .idle := by
  cases hwaits : s.call with
  | idle | dropping | clearing =>
    rw [hwaits] at hcall
    cases hcall
  | connecting other =>
    obtain ⟨t, result, hstep, hidle⟩ := exists_connected hwaits network
    exact ⟨[.connected network], t, [], result, by simp,
      machine.run_singleton.mpr hstep, by simp, hidle⟩
  | replacing other n =>
    obtain ⟨moves, t, reports, hown, hrun, htold, hsame, hover⟩ :=
      exists_isOver h (show s.call.awaited = [n] by rw [hwaits]; rfl)
    rw [hwaits] at hsame
    have hresume : machine t .resume = some ({ t with call := .connecting other }, []) := by
      simp only [machine, resume, hsame, hover, if_true]
    obtain ⟨u, result, hstep, hidle⟩ :=
      exists_connected (s := { t with call := .connecting other }) rfl network
    have hall := machine.run_append hrun (machine.run_append (machine.run_singleton.mpr hresume)
      (machine.run_singleton.mpr hstep))
    refine ⟨_, u, reports, result, ?_, hall, htold, hidle⟩
    simp only [List.mem_append, List.mem_singleton]
    rintro move (hmove | rfl | rfl)
    · exact .inl (hown move hmove)
    · exact .inl rfl
    · exact .inr rfl

end Service

end FeedRelay.Feed
