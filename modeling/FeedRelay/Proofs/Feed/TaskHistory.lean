import FeedRelay.Proofs.Feed.LiveKeys
import FeedRelay.Proofs.Feed.WindDown

/-!
# The history of a task

A service has many tasks, but each of them is the follower that it started with, after the steps
that were its own (`Service.stepsOf`): no call and no other task changes it
(`Service.follower?_of_run`, `Service.exists_start`). A task that is over makes no step any more and
tells the handler nothing (`Service.over_of_run`). A task that has no entry never gets one
(`Service.notMem_entries_of_run`), and once no call waits, it is over.

A task that is over has closed, unless its counter of attempts was used up. That takes a policy that
allows more attempts than the counter can count, and as many that fail as it can count, before the
task sees that it has to stop (`Service.spent_of_stuck`).
-/

/-- A policy allows more attempts than a pump can count. -/
def FeedRelay.ReconnectPolicy.AllowsUncounted (policy : FeedRelay.ReconnectPolicy) : Prop :=
  policy.enabled = true ∧
    (policy.maxAttempts = 0 ∨ FeedRelay.Feed.Pump.attemptLimit ≤ policy.maxAttempts)

namespace FeedRelay.Feed

/-! ### The counter of attempts -/

/-- The attempt that a pump waits for or makes. A pump that is stuck would make the one that cannot
be counted. -/
def Phase.attempt : Phase → Nat
  | .waiting attempt _ | .opening attempt => attempt
  | .stuck => Pump.attemptLimit
  | .driving _ | .ended => 0

/-- Whether an attempt to connect has failed. -/
def Happening.isFailure : Happening → Bool
  | .failed _ => true
  | _ => false

/-- Whether an attempt to connect has failed. -/
def Occurrence.isFailure : Occurrence → Bool
  | .attempt (.error _) => true
  | _ => false

namespace Pump

variable {p q : Pump} {happening : Happening} {actions : List Action}

theorem attempt_plan_le (p : Pump) (made : Nat) : (p.plan made).1.phase.attempt ≤ made + 1 := by
  unfold plan
  split
  · split
    · assumption
    · exact Nat.le_refl _
  · exact Nat.zero_le _

theorem attempt_drive_le (p : Pump) (closing : Bool) (event : Option Event) :
    (p.drive closing event).1.phase.attempt ≤ max 1 p.phase.attempt := by
  have hplan := p.attempt_plan_le 0
  unfold drive
  split
  · exact Nat.zero_le _
  · dsimp only
    split
    · exact Nat.zero_le _
    · exact Nat.le_trans hplan (Nat.le_max_left _ _)
  · exact Nat.le_max_right _ _

/-- Only a failure makes the next attempt a later one. -/
theorem attempt_le_of_step (h : p.step happening = some (q, actions)) :
    q.phase.attempt ≤ max 1 p.phase.attempt + happening.isFailure.toNat := by
  unfold step at h
  split at h
  · obtain ⟨rfl, -⟩ := Prod.mk.inj (Option.some.inj h)
    exact Nat.zero_le _
  · rename_i closing event _
    have hdrive := p.attempt_drive_le closing event
    rw [Option.some.inj h] at hdrive
    exact Nat.le_trans hdrive (Nat.le_add_right _ _)
  · obtain ⟨rfl, -⟩ := Prod.mk.inj (Option.some.inj h)
    exact Nat.zero_le _
  · rename_i attempt _ hphase
    obtain ⟨rfl, -⟩ := Prod.mk.inj (Option.some.inj h)
    rw [hphase]
    exact Nat.le_trans (Nat.le_max_right _ _) (Nat.le_add_right _ _)
  · obtain ⟨rfl, -⟩ := Prod.mk.inj (Option.some.inj h)
    exact Nat.zero_le _
  · obtain ⟨rfl, -⟩ := Prod.mk.inj (Option.some.inj h)
    exact Nat.zero_le _
  · rename_i attempt failure hphase
    obtain ⟨rfl, -⟩ := Prod.mk.inj (Option.some.inj h)
    rw [hphase]
    exact Nat.le_trans (p.attempt_plan_le attempt) (Nat.add_le_add_right (Nat.le_max_right _ _) 1)
  · cases h

/-- A pump keeps to a policy, and if its counter is used up, the policy allows that. -/
structure KeepsTo (policy : ReconnectPolicy) (p : Pump) : Prop where
  policy_eq : p.policy = policy
  allowsUncounted : p.phase = .stuck → policy.AllowsUncounted

variable {policy : ReconnectPolicy}

theorem keepsTo_plan (hp : p.policy = policy) (made : Nat) : (p.plan made).1.KeepsTo policy := by
  unfold plan
  split
  · rename_i hallows
    split
    · rename_i hmade
      rw [hp, ReconnectPolicy.allows, Bool.and_eq_true, Bool.or_eq_true, beq_iff_eq,
        decide_eq_true_eq] at hallows
      exact ⟨hp, fun _ => ⟨hallows.1, hallows.2.imp_right fun hlt => Nat.le_trans hmade hlt⟩⟩
    · exact ⟨hp, nofun⟩
  · exact ⟨hp, nofun⟩

theorem KeepsTo.drive (hp : p.KeepsTo policy) (closing : Bool) (event : Option Event) :
    (p.drive closing event).1.KeepsTo policy := by
  have hplan := keepsTo_plan hp.policy_eq 0
  unfold Pump.drive
  split
  · exact ⟨hp.policy_eq, nofun⟩
  · dsimp only
    split
    · exact ⟨hp.policy_eq, nofun⟩
    · exact hplan
  · exact hp

theorem KeepsTo.step (hp : p.KeepsTo policy) (h : p.step happening = some (q, actions)) :
    q.KeepsTo policy := by
  unfold Pump.step at h
  split at h
  case h_2 closing event _ =>
    have hdrive := hp.drive closing event
    rw [Option.some.inj h] at hdrive
    exact hdrive
  case h_7 attempt failure _ =>
    obtain ⟨rfl, -⟩ := Prod.mk.inj (Option.some.inj h)
    exact keepsTo_plan hp.policy_eq attempt
  case h_8 => cases h
  all_goals
    obtain ⟨rfl, -⟩ := Prod.mk.inj (Option.some.inj h)
    exact ⟨hp.policy_eq, nofun⟩

end Pump

namespace Follower

variable {f g : Follower} {occurrence : Occurrence} {actions : List Action}

theorem attempt_start_le (topic : Topic) (policy : ReconnectPolicy) (url : Option Url) :
    (start topic policy url).1.pump.phase.attempt ≤ 1 := by
  cases url with
  | some url => exact Nat.zero_le 1
  | none => exact Pump.attempt_plan_le _ 0

theorem isFailure_of_happening? {happening : Happening}
    (h : f.happening? occurrence = some happening) :
    happening.isFailure = occurrence.isFailure := by
  cases occurrence with
  | signal => cases h
  | event =>
    obtain ⟨s, -, h⟩ := Option.bind_eq_some_iff.mp h
    split at h <;> cases h <;> rfl
  | attempt result => cases result <;> cases h <;> rfl
  | stop | elapsed =>
    cases h
    rfl

/-- Only a failure makes the next attempt a later one. -/
theorem attempt_le_of_step (h : f.step occurrence = some (g, actions)) :
    g.pump.phase.attempt ≤ max 1 f.pump.phase.attempt + occurrence.isFailure.toNat := by
  obtain ⟨_, -, hsame, -⟩ | ⟨happening, hhappening, hstep⟩ := pump_of_step h
  · rw [hsame]
    exact Nat.le_trans (Nat.le_max_right _ _) (Nat.le_add_right _ _)
  · rw [← isFailure_of_happening? hhappening]
    exact Pump.attempt_le_of_step hstep

theorem attempt_le_of_run {occurrences : List Occurrence}
    (h : machine.run f occurrences = some (g, actions)) :
    g.pump.phase.attempt ≤
      max 1 f.pump.phase.attempt + occurrences.countP Occurrence.isFailure := by
  refine Machine.run_induction
    (motive := fun occurrences g _ => g.pump.phase.attempt ≤
      max 1 f.pump.phase.attempt + occurrences.countP Occurrence.isFailure)
    (Nat.le_max_right _ _) ?_ h
  intro occurrences g _ occurrence k _ _ hg hstep
  have hk := attempt_le_of_step hstep
  have hcount : [occurrence].countP Occurrence.isFailure = occurrence.isFailure.toNat := by
    cases hfailure : occurrence.isFailure <;> simp [hfailure]
  rw [List.countP_append]
  omega

variable {policy : ReconnectPolicy}

theorem keepsTo_start (topic : Topic) (policy : ReconnectPolicy) (url : Option Url) :
    (start topic policy url).1.pump.KeepsTo policy := by
  cases url with
  | some url => exact ⟨rfl, nofun⟩
  | none => exact Pump.keepsTo_plan (p := ⟨topic, policy, .connecting, .ended⟩) rfl 0

theorem keepsTo_of_step (hf : f.pump.KeepsTo policy) (h : f.step occurrence = some (g, actions)) :
    g.pump.KeepsTo policy := by
  obtain ⟨_, -, hsame, -⟩ | ⟨happening, -, hstep⟩ := pump_of_step h
  · rwa [hsame]
  · exact hf.step hstep

theorem keepsTo_of_run {occurrences : List Occurrence} (hf : f.pump.KeepsTo policy)
    (h : machine.run f occurrences = some (g, actions)) : g.pump.KeepsTo policy :=
  Machine.run_induction (motive := fun _ g _ => g.pump.KeepsTo policy) hf
    (fun _ hg hstep => keepsTo_of_step hg hstep) h

end Follower

namespace Service

variable {s t : Service} {move : Move} {moves : List Move} {reports : List Report} {n : Nat}
  {f : Follower}

/-! ### The steps of a task -/

/-- What happened to a task among the moves of a service. -/
def stepsOf (n : Nat) (moves : List Move) : List Occurrence :=
  moves.filterMap fun
    | .occur m occurrence => if m = n then some occurrence else none
    | _ => none

@[simp] theorem stepsOf_append (n : Nat) (moves later : List Move) :
    stepsOf n (moves ++ later) = stepsOf n moves ++ stepsOf n later :=
  List.filterMap_append

theorem stepsOf_map_occur (n : Nat) (occurrences : List Occurrence) :
    stepsOf n (occurrences.map (.occur n)) = occurrences := by
  induction occurrences with
  | nil => rfl
  | cons occurrence rest ih =>
    rw [stepsOf] at ih
    simp [stepsOf, ih]

theorem stepsOf_map_occur_of_ne {m : Nat} (h : m ≠ n) (occurrences : List Occurrence) :
    stepsOf n (occurrences.map (.occur m)) = [] :=
  List.filterMap_eq_nil_iff.mpr (List.forall_mem_map.mpr fun _ _ => if_neg h)

/-- A move that is no step of a task changes no follower that was there. -/
theorem follower?_of_ne_occur (h : machine s move = some (t, reports))
    (hmove : ∀ m occurrence, move ≠ .occur m occurrence) (hf : s.follower? n = some f) :
    t.follower? n = some f := by
  have hsame (hfollowers : t.followers = s.followers) : t.follower? n = some f := by
    rw [follower?, hfollowers]
    exact hf
  cases change_of_machine h with
  | refuse | answer | reach | proceed | dropped | fail => exact hf
  | replace | leave => exact hsame (s.followers_takeDown _ _ _)
  | shutdown | clear => exact hsame (followers_clear _ _)
  | follow url hcall => exact follower?_follow.mpr (.inl hf)
  | @occur m occurrence => exact absurd rfl (hmove m occurrence)

theorem stepsOf_singleton_of_ne (h : ∀ occurrence, move ≠ .occur n occurrence) :
    stepsOf n [move] = [] := by
  cases move with
  | occur m occurrence =>
    have hm : m ≠ n := fun hm => h occurrence (by rw [hm])
    simp [stepsOf, hm]
  | _ => rfl

/-- A step of a task is one of its follower; the other followers stay. -/
theorem follower?_of_occur {m : Nat} {occurrence : Occurrence}
    (h : machine s (.occur m occurrence) = some (t, reports)) :
    ∃ f g actions, s.follower? m = some f ∧ f.step occurrence = some (g, actions) ∧
      ∀ n, t.follower? n = if m = n then some g else s.follower? n := by
  obtain ⟨task, htask, h⟩ := Option.bind_eq_some_iff.mp h
  obtain ⟨-, h⟩ := Option.ite_none_right_eq_some.mp h
  obtain ⟨⟨g, actions⟩, hstep, h⟩ := Option.map_eq_some_iff.mp h
  obtain ⟨rfl, -⟩ := Prod.mk.inj h
  exact ⟨task.follower, g, actions, follower?_eq_some.mpr ⟨task, htask, rfl⟩, hstep,
    fun n => follower?_put htask⟩

/-- The follower of a task after a move is the one before, after the step that was its own. -/
theorem follower?_of_machine (h : machine s move = some (t, reports))
    (hf : s.follower? n = some f) : ∃ g actions,
      Follower.machine.run f (stepsOf n [move]) = some (g, actions) ∧ t.follower? n = some g := by
  by_cases hmove : ∃ occurrence, move = .occur n occurrence
  · obtain ⟨occurrence, rfl⟩ := hmove
    obtain ⟨r, g, actions, hr, hstep, hfollower⟩ := follower?_of_occur h
    obtain rfl := Option.some.inj (hr.symm.trans hf)
    have hsteps : stepsOf n [.occur n occurrence] = [occurrence] := by simp [stepsOf]
    exact ⟨g, actions, by rw [hsteps]; exact Follower.machine.run_singleton.mpr hstep,
      by rw [hfollower, if_pos rfl]⟩
  · rw [not_exists] at hmove
    refine ⟨f, [], by rw [stepsOf_singleton_of_ne hmove]; rfl, ?_⟩
    by_cases hother : ∃ m occurrence, move = .occur m occurrence
    · obtain ⟨m, occurrence, rfl⟩ := hother
      obtain ⟨_, _, _, -, -, hfollower⟩ := follower?_of_occur h
      rw [hfollower, if_neg fun hm => hmove occurrence (by rw [hm])]
      exact hf
    · exact follower?_of_ne_occur h (fun m occurrence hm => hother ⟨m, occurrence, hm⟩) hf

/-- The follower of a task after a run is the one before, after the steps that were its own. -/
theorem follower?_of_run (h : machine.run s moves = some (t, reports))
    (hf : s.follower? n = some f) : ∃ g actions,
      Follower.machine.run f (stepsOf n moves) = some (g, actions) ∧ t.follower? n = some g := by
  refine Machine.run_induction
    (motive := fun moves t _ => ∃ g actions,
      Follower.machine.run f (stepsOf n moves) = some (g, actions) ∧ t.follower? n = some g)
    ⟨f, [], rfl, hf⟩ ?_ h
  rintro moves t _ move u _ - ⟨g, actions, hrun, hg⟩ hstep
  obtain ⟨k, more, hlast, hk⟩ := follower?_of_machine hstep hg
  refine ⟨k, actions ++ more, ?_, hk⟩
  rw [stepsOf_append]
  exact Follower.machine.run_append hrun hlast

/-- No move changes where a service connects to, and when it does so again. -/
theorem settings_of_machine (h : machine s move = some (t, reports)) :
    t.base = s.base ∧ t.policy = s.policy := by
  have hclear (u : Service) (order : List Nat) :
      (u.clear order).1.base = u.base ∧ (u.clear order).1.policy = u.policy := by
    cases order <;> exact ⟨rfl, rfl⟩
  cases change_of_machine h with
  | shutdown | clear => exact hclear _ _
  | _ => exact ⟨rfl, rfl⟩

theorem settings_of_run (h : machine.run s moves = some (t, reports)) :
    t.base = s.base ∧ t.policy = s.policy :=
  Machine.run_induction (motive := fun _ t _ => t.base = s.base ∧ t.policy = s.policy) ⟨rfl, rfl⟩
    (fun _ ht hstep => (settings_of_machine hstep).imp (·.trans ht.1) (·.trans ht.2)) h

/-- A task that was not there has been started when an attempt to connect came out. -/
theorem started_of_machine (h : machine s move = some (t, reports)) (hnone : s.follower? n = none)
    (hf : t.follower? n = some f) :
    ∃ network topic url, move = .connected network ∧
      f = (Follower.start topic s.policy url).1 := by
  have hsame (hfollowers : t.followers = s.followers) : s.follower? n = some f := by
    rw [follower?, ← hfollowers]
    exact hf
  cases change_of_machine h with
  | refuse | answer | reach | proceed | dropped | fail => cases hnone.symm.trans hf
  | replace | leave => cases hnone.symm.trans (hsame (s.followers_takeDown _ _ _))
  | shutdown | clear => cases hnone.symm.trans (hsame (followers_clear _ _))
  | follow url hcall =>
    rcases follower?_follow.mp hf with hf | ⟨-, rfl⟩
    · cases hnone.symm.trans hf
    · exact ⟨_, _, _, rfl, rfl⟩
  | @occur m occurrence task g actions htask =>
    rw [follower?_put htask] at hf
    split at hf
    · rename_i hm
      rw [← hm, follower?_eq_some.mpr ⟨task, htask, rfl⟩] at hnone
      cases hnone
    · cases hnone.symm.trans hf

theorem stepsOf_singleton_of_none (h : machine s move = some (t, reports))
    (hnone : s.follower? n = none) : stepsOf n [move] = [] := by
  refine stepsOf_singleton_of_ne fun occurrence hmove => ?_
  subst hmove
  obtain ⟨f, _, _, hf, -⟩ := follower?_of_occur h
  cases hnone.symm.trans hf

/-- A task that starts has the key of its topic. -/
theorem keyOf_follow (s : Service) (topic : Topic) (url : Option Url) :
    (s.follow topic url).1.keyOf s.tasks.length = topic.displayKey := by
  obtain ⟨-, htopic, -, -⟩ := Follower.start_spec topic s.policy url
  rw [keyOf_of_follower? (follower?_follow.mpr (.inr ⟨rfl, rfl⟩)), Follower.key, htopic]

theorem Orderly.lt_of_mem_entries (hs : s.Orderly) (hn : n ∈ s.entries) :
    n < s.followers.length :=
  hs.lt_length n (List.mem_append_left _ hn)

/-- No move loses a task or changes its key. -/
theorem Orderly.keyOf_of_machine (hs : s.Orderly) (h : machine s move = some (t, reports))
    (hlt : n < s.followers.length) :
    n < t.followers.length ∧ t.keyOf n = s.keyOf n := by
  obtain ⟨f, hf⟩ := exists_follower? hlt
  obtain ⟨g, hg, htopic⟩ := hs.exists_topic_eq h hf
  refine ⟨(List.getElem?_eq_some_iff.mp hg).1, ?_⟩
  rw [keyOf_of_follower? hf, keyOf_of_follower? hg, Follower.key, Follower.key, htopic]

theorem Orderly.keyOf_of_run (hs : s.Orderly) (h : machine.run s moves = some (t, reports))
    (hlt : n < s.followers.length) :
    t.Orderly ∧ n < t.followers.length ∧ t.keyOf n = s.keyOf n := by
  refine Machine.run_induction
    (motive := fun _ t _ => t.Orderly ∧ n < t.followers.length ∧ t.keyOf n = s.keyOf n)
    ⟨hs, hlt, rfl⟩ (fun _ ⟨ht, hlt, hkey⟩ hstep => ?_) h
  obtain ⟨hlt, hsame⟩ := ht.keyOf_of_machine hstep hlt
  exact ⟨ht.step hstep, hlt, hsame.trans hkey⟩

/-- Every task is the follower that it started with, after the steps that were its own. -/
theorem exists_start {base : Url} {policy : ReconnectPolicy}
    (h : machine.run (start base policy) moves = some (s, reports)) (hf : s.follower? n = some f) :
    ∃ topic url actions, Follower.machine.run (Follower.start topic policy url).1
      (stepsOf n moves) = some (f, actions) := by
  refine (Machine.run_induction
    (motive := fun moves s _ => (s.follower? n = none → stepsOf n moves = []) ∧
      ∀ f, s.follower? n = some f → ∃ topic url actions,
        Follower.machine.run (Follower.start topic policy url).1 (stepsOf n moves) =
          some (f, actions)) ⟨fun _ => rfl, fun f hf => by cases hf⟩ ?_ h).2 f hf
  rintro moves s _ move t _ hmoves ⟨hnone, hsome⟩ hstep
  rw [stepsOf_append]
  cases hs : s.follower? n with
  | none =>
    rw [hnone hs, stepsOf_singleton_of_none hstep hs]
    refine ⟨fun _ => rfl, fun f hf => ?_⟩
    obtain ⟨-, topic, url, -, rfl⟩ := started_of_machine hstep hs hf
    rw [(settings_of_run hmoves).2]
    exact ⟨topic, url, [], rfl⟩
  | some r =>
    obtain ⟨topic, url, actions, hrun⟩ := hsome r hs
    obtain ⟨g, more, hlast, hg⟩ := follower?_of_machine hstep hs
    refine ⟨fun ht => (by cases ht.symm.trans hg), fun f hf => ?_⟩
    obtain rfl := Option.some.inj (hg.symm.trans hf)
    exact ⟨topic, url, _, Follower.machine.run_append hrun hlast⟩

/-! ### Tasks that are over -/

/-- A task that is over stays as it is and tells the handler nothing. -/
theorem Orderly.over_of_machine (hs : s.Orderly) (h : machine s move = some (t, reports))
    (hf : s.follower? n = some f) (hover : f.isOver = true) :
    t.follower? n = some f ∧ ∀ topic event, .told n topic event ∉ reports := by
  obtain ⟨g, actions, hrun, hg⟩ := follower?_of_machine h hf
  have hfg : g = f := by
    obtain ⟨task, htask, rfl⟩ := follower?_eq_some.mp hf
    exact (Follower.run_of_isOver (hs.sound n task htask).follower hover hrun).1
  refine ⟨hfg ▸ hg, fun topic event hmem => ?_⟩
  rcases hs.reports_cases h with hreturned | ⟨m, r, hr, hrunning, htold⟩
  · obtain ⟨outcome, heq⟩ := hreturned _ hmem
    cases heq
  · obtain ⟨_, heq⟩ := htold _ hmem
    cases heq
    obtain rfl := Option.some.inj (hr.symm.trans hf)
    rw [hover] at hrunning
    cases hrunning

theorem over_of_run (hs : s.Orderly) (h : machine.run s moves = some (t, reports))
    (hf : s.follower? n = some f) (hover : f.isOver = true) :
    t.follower? n = some f ∧ ∀ topic event, .told n topic event ∉ reports := by
  refine (Machine.run_induction
    (motive := fun _ t reports => t.Orderly ∧ t.follower? n = some f ∧
      ∀ topic event, .told n topic event ∉ reports)
    ⟨hs, hf, by simp⟩ (fun _ ⟨ht, htf, hquiet⟩ hstep => ?_) h).2
  obtain ⟨huf, hstill⟩ := ht.over_of_machine hstep htf hover
  exact ⟨ht.step hstep, huf, fun topic event hmem =>
    (List.mem_append.mp hmem).elim (hquiet topic event) (hstill topic event)⟩

/-- A task whose counter of attempts is used up connects for good. -/
theorem Orderly.connecting_of_stuck (hs : s.Orderly) (h : machine.run s moves = some (t, reports))
    (hf : s.follower? n = some f) (hstuck : f.pump.phase = .stuck) :
    t.follower? n = some f ∧ f.state = .connecting := by
  have hover : f.isOver = true := by
    rw [Follower.isOver, hstuck]
    rfl
  refine ⟨(over_of_run hs h hf hover).1, ?_⟩
  obtain ⟨task, htask, rfl⟩ := follower?_eq_some.mp hf
  rw [(hs.sound n task htask).follower.state_eq, hstuck]
  rfl

/-! ### Tasks without an entry -/

@[simp] theorem entries_clear (s : Service) (order : List Nat) :
    (s.clear order).1.entries = s.entries := by
  cases order <;> rfl

/-- A move takes entries away, or it starts a task and puts it in its place. -/
theorem entries_of_machine (h : machine s move = some (t, reports)) :
    t.entries.Sublist s.entries ∨ t.entries = place t.keyOf s.tasks.length s.entries := by
  cases change_of_machine h with
  | refuse | answer | reach | proceed | dropped | fail | occur => exact .inl (List.Sublist.refl _)
  | replace | leave => exact .inl List.filter_sublist
  | shutdown =>
    rw [entries_clear]
    exact .inl (List.nil_sublist _)
  | clear =>
    rw [entries_clear]
    exact .inl (List.Sublist.refl _)
  | follow url hcall => exact .inr rfl

/-- Only a task that starts gets an entry. -/
theorem mem_entries_of_machine (h : machine s move = some (t, reports)) (hn : n ∈ t.entries) :
    n ∈ s.entries ∨ n = s.tasks.length := by
  rcases entries_of_machine h with hsub | hplace
  · exact .inl (hsub.subset hn)
  · rw [hplace] at hn
    exact (mem_place hn).symm

/-- A task without an entry never gets one. -/
theorem notMem_entries_of_run (hs : s.Orderly)
    (h : machine.run s moves = some (t, reports)) (hlt : n < s.followers.length)
    (hn : n ∉ s.entries) : t.Orderly ∧ n < t.followers.length ∧ n ∉ t.entries := by
  refine Machine.run_induction
    (motive := fun _ t _ => t.Orderly ∧ n < t.followers.length ∧ n ∉ t.entries)
    ⟨hs, hlt, hn⟩ (fun _ ⟨ht, hlt, hn⟩ hstep => ?_) h
  refine ⟨ht.step hstep, (ht.keyOf_of_machine hstep hlt).1, fun hmem => ?_⟩
  rcases mem_entries_of_machine hstep hmem with hmem | rfl
  · exact hn hmem
  · rw [length_followers] at hlt
    exact Nat.lt_irrefl _ hlt

/-- Once no call waits, a task without an entry is over. -/
theorem Orderly.isOver_of_notMem (hs : s.Orderly) (hidle : s.call.isIdle = true)
    (hf : s.follower? n = some f) (hn : n ∉ s.entries) : f.isOver = true := by
  cases hover : f.isOver with
  | true => rfl
  | false =>
    have hheld := hs.held_of_running n f hf hover
    rw [held, Call.awaited_of_isIdle hidle, List.append_nil] at hheld
    exact absurd hheld hn

/-- If the counter of attempts of a task is used up, the task is connecting and has not seen that it
has to stop, its policy allows more attempts than can be counted, and as many of them have failed as
can be counted. -/
theorem spent_of_stuck {base : Url} {policy : ReconnectPolicy}
    (h : machine.run (start base policy) moves = some (s, reports)) (hf : s.follower? n = some f)
    (hstuck : f.pump.phase = .stuck) :
    f.state = .connecting ∧ policy.AllowsUncounted ∧ .stop ∉ stepsOf n moves ∧
      Pump.attemptLimit ≤ (stepsOf n moves).countP Occurrence.isFailure + 1 := by
  obtain ⟨topic, url, actions, hrun⟩ := exists_start h hf
  obtain ⟨hstarted, -⟩ := Follower.start_spec topic policy url
  obtain ⟨hsound, -⟩ := Follower.sound_of_run hstarted hrun
  have hkeeps := Follower.keepsTo_of_run (Follower.keepsTo_start topic policy url) hrun
  have hstart := Follower.attempt_start_le topic policy url
  have hattempt := Follower.attempt_le_of_run hrun
  rw [hstuck] at hattempt
  change Pump.attemptLimit ≤ _ at hattempt
  refine ⟨?_, hkeeps.allowsUncounted hstuck,
    fun hstop => Follower.phase_ne_stuck_of_stop hstarted hrun hstop hstuck, by omega⟩
  rw [hsound.state_eq, hstuck]
  rfl

end Service

end FeedRelay.Feed
