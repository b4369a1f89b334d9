import FeedRelay.Proofs.Delays
import FeedRelay.Proofs.Feed.WindDown

/-!
# The schedule of an outage

An outage of a key begins when its follower starts without a connection, or when a connection
closes although nobody asked for that. Then the follower waits and tries to connect, and waits and
tries again, until an attempt succeeds or as many have failed as the policy allows. What can be seen
of that is a list of marks, each with the state of the key behind it: the key is down, a delay
begins, it is over, an attempt to connect begins, it succeeds or fails, or the follower sees that it
has to stop.

## Main results

* `Follower.outages_keep_schedule`: the marks of every run are those of outages one after another.
  Each counts its attempts from zero, each attempt comes behind the delay that is its own, and the
  key is connecting until an attempt succeeds, or until the last one that is allowed has failed and
  the key is closed for good.
-/

namespace FeedRelay.Feed

/-- What can be seen of outages. -/
inductive Mark where
  | down
  | wait (delay : Interval)
  | elapsed
  | connect
  | opened
  | failed
  | stopped
  deriving DecidableEq, Repr

/-- The mark of what happens to a pump. -/
def Happening.mark? : Happening → Option Mark
  | .stop => some .stopped
  | .elapsed => some .elapsed
  | .opened => some .opened
  | .failed _ => some .failed
  | .event _ => none

/-- The mark of what is done. -/
def Action.mark? : Action → Option Mark
  | .wait delay => some (.wait delay)
  | .connect => some .connect
  | _ => none

/-- The marks of what is done. -/
def doneMarks (actions : List Action) : List Mark :=
  actions.filterMap Action.mark?

@[simp] theorem doneMarks_nil : doneMarks [] = [] := rfl

@[simp] theorem doneMarks_handle (topic : Topic) (event : Event) (rest : List Action) :
    doneMarks (.handle topic event :: rest) = doneMarks rest := rfl

@[simp] theorem doneMarks_log (line : Log.Line) (rest : List Action) :
    doneMarks (.log line :: rest) = doneMarks rest := rfl

/-- Marks of outages, each with the state of the key behind it. -/
abbrev Marks := List (Mark × State)

/-- Marks behind all of which the key is in one state. -/
def marksIn (state : State) (marks : List Mark) : Marks :=
  marks.map (·, state)

end FeedRelay.Feed

namespace FeedRelay.ReconnectPolicy

open Feed

variable (policy : ReconnectPolicy)

/-- An attempt: a delay, and a try to connect when it is over. -/
def trial (attempt : Nat) : List Mark :=
  [.wait (policy.delayFor attempt), .elapsed, .connect]

/-- An outage up to the failure of the last of some attempts. -/
def outset (failures : Nat) : Marks :=
  (.down, .connecting) ::
    (List.range failures).flatMap fun j => marksIn .connecting (policy.trial j ++ [.failed])

/-- An outage that ends with the success of an attempt. -/
def overcome (attempt : Nat) : Marks :=
  policy.outset attempt ++ marksIn .connecting (policy.trial attempt) ++ [(.opened, .streaming)]

/-- An outage that ends with the failure of an attempt. -/
def givenUp (attempt : Nat) : Marks :=
  policy.outset attempt ++ marksIn .connecting (policy.trial attempt) ++ [(.failed, .closed)]

/-- A policy that connects again, but not more often than a limit that can be counted. -/
structure Limited : Prop where
  enabled : policy.enabled = true
  pos : 1 ≤ policy.maxAttempts
  lt_attemptLimit : policy.maxAttempts < Pump.attemptLimit

variable {policy} in
theorem Limited.allows_iff (h : policy.Limited) {attempt : Nat} :
    policy.allows attempt = true ↔ attempt < policy.maxAttempts := by
  have hne : policy.maxAttempts ≠ 0 := Nat.ne_of_gt h.pos
  simp [allows, h.enabled, hne]

theorem outset_succ (failures : Nat) :
    policy.outset (failures + 1) =
      policy.outset failures ++ marksIn .connecting (policy.trial failures) ++
        [(.failed, .connecting)] := by
  simp [outset, marksIn, List.range_succ]

/-- An attempt in an outage is one try to connect. -/
theorem countP_connect_outset (failures : Nat) :
    (policy.outset failures).countP (·.1 = .connect) = failures := by
  induction failures with
  | zero => rfl
  | succ failures ih =>
    have htrial : (marksIn .connecting (policy.trial failures)).countP (·.1 = .connect) = 1 := rfl
    rw [outset_succ, List.countP_append, List.countP_append, ih, htrial]
    rfl

theorem countP_connect_givenUp (attempt : Nat) :
    (policy.givenUp attempt).countP (·.1 = .connect) = attempt + 1 := by
  have htrial : (marksIn .connecting (policy.trial attempt)).countP (·.1 = .connect) = 1 := rfl
  rw [givenUp, List.countP_append, List.countP_append, countP_connect_outset, htrial]
  rfl

/-- What can be seen behind the last outage that was overcome, by what the pump is doing: nothing or
the end of the connection, or an outage that lasts, was given up, or was cut short. -/
inductive Present : Phase → Marks → Prop
  | driving : Present (.driving false) []
  | closing : Present (.driving true) [(.stopped, .streaming)]
  | waiting {attempt : Nat} (h : attempt < policy.maxAttempts) :
      Present (.waiting (attempt + 1) (policy.delayFor attempt))
        (policy.outset attempt ++ [(.wait (policy.delayFor attempt), .connecting)])
  | opening {attempt : Nat} (h : attempt < policy.maxAttempts) :
      Present (.opening (attempt + 1))
        (policy.outset attempt ++ marksIn .connecting (policy.trial attempt))
  | closed : Present .ended [(.stopped, .streaming)]
  | givenUp {attempt : Nat} (h : attempt + 1 = policy.maxAttempts) :
      Present .ended (policy.givenUp attempt)
  | cutWaiting {attempt : Nat} (h : attempt < policy.maxAttempts) :
      Present .ended (policy.outset attempt ++
        [(.wait (policy.delayFor attempt), .connecting), (.stopped, .closed)])
  | cutOpening {attempt : Nat} (h : attempt < policy.maxAttempts) :
      Present .ended (policy.outset attempt ++ marksIn .connecting (policy.trial attempt) ++
        [(.stopped, .closed)])

end FeedRelay.ReconnectPolicy

namespace FeedRelay.Feed

/-! ### The marks of a pump -/

namespace Pump

variable {p q : Pump} {made : Nat} {happening : Happening} {actions : List Action}
  {last : Marks}

/-- Whether a pump loses a connection that nobody asked to close. -/
def loses (p : Pump) (happening : Happening) : Bool :=
  match p.phase, happening with
  | .driving false, .event (some (.closed reason)) => reason ≠ .requested
  | _, _ => false

/-- The marks of a step of a pump. -/
def marksOf (p : Pump) (happening : Happening) (actions : List Action) : List Mark :=
  happening.mark?.toList ++ (if p.loses happening then [.down] else []) ++
    doneMarks actions

/-- The marks of a step in which an attempt fails. -/
theorem marksOf_failed (p : Pump) (failure : Failure) (line : Log.Line) (rest : List Action) :
    p.marksOf (.failed failure) (.log line :: rest) = .failed :: doneMarks rest := by
  have hloses : p.loses (.failed failure) = false := by
    unfold loses
    split
    · cases ‹Happening.failed _ = _›
    · rfl
  simp [marksOf, hloses, Happening.mark?]

/-- A pump that may make the next attempt, and can count it, plans it. -/
theorem plan_of_allows (hp : p.policy.allows made = true) (h : made + 1 < attemptLimit) :
    (p.plan made).1 =
        { p with state := .connecting, phase := .waiting (made + 1) (p.policy.delayFor made) } ∧
      doneMarks (p.plan made).2 = [.wait (p.policy.delayFor made)] := by
  rw [plan, if_pos hp, if_neg (Nat.not_le.mpr h)]
  exact ⟨rfl, rfl⟩

/-- Below its limit a pump plans the next attempt. -/
theorem plan_of_lt (hp : p.policy.Limited) (h : made < p.policy.maxAttempts) :
    (p.plan made).1 =
        { p with state := .connecting, phase := .waiting (made + 1) (p.policy.delayFor made) } ∧
      doneMarks (p.plan made).2 = [.wait (p.policy.delayFor made)] := by
  have hlimit := hp.lt_attemptLimit
  exact plan_of_allows (hp.allows_iff.mpr h) (by omega)

/-- At its limit a pump gives up. -/
theorem plan_of_limit (hp : p.policy.Limited) (h : made = p.policy.maxAttempts) :
    (p.plan made).1 = p.finish ∧ doneMarks (p.plan made).2 = [] := by
  have hnot : ¬p.policy.allows made = true := by
    rw [hp.allows_iff]
    omega
  rw [plan, if_neg hnot]
  refine ⟨rfl, ?_⟩
  split <;> rfl

/-- What was seen of the present goes on with the marks of a step, or an outage is overcome. -/
inductive Goes (q : Pump) (marks : Marks) : Prop
  | on (h : q.policy.Present q.phase marks)
  | overcome {attempt : Nat} (hphase : q.phase = .driving false)
      (h : attempt < q.policy.maxAttempts) (hmarks : marks = q.policy.overcome attempt)

/-- A pump that hands on an event goes on as before, or is down if that was the end of a connection
which nobody asked to close. -/
private theorem goes_of_drive (hp : p.policy.Limited) {closing : Bool} {event : Event}
    (hphase : p.phase = .driving closing) (hpresent : p.policy.Present p.phase last)
    (hlocal : closing = false → event ≠ .closed .requested)
    (h : p.drive closing (some event) = (q, actions)) :
    q.policy = p.policy ∧
      q.Goes (last ++ marksIn q.state (p.marksOf (.event (some event)) actions)) := by
  by_cases hlast : ∃ reason, event = .closed reason
  · obtain ⟨reason, rfl⟩ := hlast
    cases closing with
    | true =>
      rw [drive_closed_of_local (.inl rfl)] at h
      obtain ⟨rfl, rfl⟩ := Prod.mk.inj h
      have hmarks : p.marksOf (.event (some (.closed reason)))
          [.handle p.finish.topic (.closed reason)] = [] := by
        simp [marksOf, loses, hphase, Happening.mark?]
      rw [hphase] at hpresent
      cases hpresent
      refine ⟨rfl, .on ?_⟩
      rw [hmarks]
      exact .closed
    | false =>
      have hreason : reason ≠ .requested := fun heq => hlocal rfl (congrArg _ heq)
      rw [drive_closed_of_not_local (by simp [hreason])] at h
      obtain ⟨rfl, rfl⟩ := Prod.mk.inj h
      obtain ⟨hplan, hwait⟩ := plan_of_lt hp hp.pos
      have hmarks : p.marksOf (.event (some (.closed reason)))
          (.handle (p.plan 0).1.topic (.closed reason) :: (p.plan 0).2) =
            [.down, .wait (p.policy.delayFor 0)] := by
        simp [marksOf, loses, hphase, Happening.mark?, hreason, hwait]
      rw [hphase] at hpresent
      cases hpresent
      rw [hmarks, hplan]
      exact ⟨rfl, .on (.waiting hp.pos)⟩
  · rw [not_exists] at hlast
    rw [drive_of_not_last hlast] at h
    obtain ⟨rfl, rfl⟩ := Prod.mk.inj h
    have hloses : p.loses (.event (some event)) = false := by
      unfold loses
      split
      · rename_i heq
        cases heq
        exact absurd rfl (hlast _)
      · rfl
    have hmarks : p.marksOf (.event (some event)) [.handle p.topic event] = [] := by
      simp [marksOf, hloses, Happening.mark?]
    rw [hmarks]
    exact ⟨rfl, .on (by simpa [marksIn] using hpresent)⟩

/-- A pump that fails to connect tries again, or gives up when it may not. -/
private theorem goes_of_failed (hp : p.policy.Limited) {attempt : Nat} {failure : Failure}
    (hphase : p.phase = .opening (attempt + 1)) (hattempt : attempt < p.policy.maxAttempts)
    (h : p.step (.failed failure) = some (q, actions)) :
    q.policy = p.policy ∧ q.Goes (p.policy.outset attempt ++
      marksIn .connecting (p.policy.trial attempt) ++
        marksIn q.state (p.marksOf (.failed failure) actions)) := by
  obtain ⟨made, hmade, rfl, line, rfl⟩ := step_failed_eq_some h
  obtain rfl : attempt + 1 = made := Phase.opening.inj (hphase.symm.trans hmade)
  rw [marksOf_failed]
  by_cases hnext : attempt + 1 < p.policy.maxAttempts
  · obtain ⟨hplan, hwait⟩ := plan_of_lt hp hnext
    rw [hplan, hwait]
    refine ⟨rfl, .on ?_⟩
    have hpresent := ReconnectPolicy.Present.waiting hnext
    rw [ReconnectPolicy.outset_succ, List.append_assoc] at hpresent
    exact hpresent
  · have hlast : attempt + 1 = p.policy.maxAttempts := by omega
    obtain ⟨hplan, hnone⟩ := plan_of_limit hp hlast
    rw [hplan, hnone]
    exact ⟨rfl, .on (.givenUp hlast)⟩

/-- What a step leaves goes on with what was seen of the present. -/
theorem goes_of_step (hp : p.policy.Limited) (hpresent : p.policy.Present p.phase last)
    (hstate : p.state = p.phase.status) (hnone : happening ≠ .event none)
    (hlocal : p.phase = .driving false → happening ≠ .event (some (.closed .requested)))
    (h : p.step happening = some (q, actions)) :
    q.policy = p.policy ∧ q.Goes (last ++ marksIn q.state (p.marksOf happening actions)) := by
  have hdrive {closing : Bool} {event : Event} (hphase : p.phase = .driving closing)
      (heq : happening = .event (some event)) (hq : p.drive closing (some event) = (q, actions)) :
      q.policy = p.policy ∧
        q.Goes (last ++ marksIn q.state (p.marksOf happening actions)) := by
    subst heq
    refine goes_of_drive hp hphase hpresent (fun hclosing hevent => ?_) hq
    rw [hclosing] at hphase
    exact hlocal hphase (by rw [hevent])
  obtain ⟨topic, policy, state, phase⟩ := p
  change policy.Present phase last at hpresent
  obtain rfl : state = phase.status := hstate
  cases hpresent with
  | driving =>
    cases happening with
    | stop =>
      obtain ⟨rfl, rfl⟩ := Prod.mk.inj (Option.some.inj h)
      exact ⟨rfl, .on .closing⟩
    | event event =>
      cases event with
      | none => exact absurd rfl hnone
      | some event => exact hdrive rfl rfl (Option.some.inj h)
    | _ => cases h
  | closing =>
    cases happening with
    | event event =>
      cases event with
      | none => exact absurd rfl hnone
      | some event => exact hdrive rfl rfl (Option.some.inj h)
    | _ => cases h
  | @waiting attempt hattempt =>
    cases happening with
    | stop =>
      obtain ⟨rfl, rfl⟩ := Prod.mk.inj (Option.some.inj h)
      refine ⟨rfl, .on ?_⟩
      rw [List.append_assoc]
      exact .cutWaiting hattempt
    | elapsed =>
      obtain ⟨rfl, rfl⟩ := Prod.mk.inj (Option.some.inj h)
      refine ⟨rfl, .on ?_⟩
      rw [List.append_assoc]
      exact .opening hattempt
    | _ => cases h
  | @opening attempt hattempt =>
    cases happening with
    | stop =>
      obtain ⟨rfl, rfl⟩ := Prod.mk.inj (Option.some.inj h)
      exact ⟨rfl, .on (.cutOpening hattempt)⟩
    | opened =>
      obtain ⟨rfl, rfl⟩ := Prod.mk.inj (Option.some.inj h)
      exact ⟨rfl, .overcome rfl hattempt rfl⟩
    | failed failure => exact goes_of_failed hp rfl hattempt h
    | _ => cases h
  | closed => cases h
  | givenUp => cases h
  | cutWaiting => cases h
  | cutOpening => cases h

end Pump

namespace Follower

variable {f g : Follower} {occurrence : Occurrence} {actions : List Action} {topic : Topic}
  {policy : ReconnectPolicy} {url : Option Url}

/-- Followers as a machine that leaves marks. -/
def chronicle : Machine Follower Occurrence (Mark × State)
  | f, occurrence => (f.step occurrence).map fun (g, actions) =>
      (g, marksIn g.state ((f.happening? occurrence).elim [] (f.pump.marksOf · actions)))

/-- A run that leaves marks is one of the follower. -/
theorem exists_run_of_chronicle {occurrences : List Occurrence} {marks : Marks}
    (h : chronicle.run f occurrences = some (g, marks)) :
    ∃ actions, machine.run f occurrences = some (g, actions) := by
  refine Machine.run_induction
    (motive := fun occurrences g _ => ∃ actions, machine.run f occurrences = some (g, actions))
    ⟨[], rfl⟩ (fun _ ⟨actions, hrun⟩ hstep => ?_) h
  obtain ⟨⟨_, more⟩, hgo, heq⟩ := Option.map_eq_some_iff.mp hstep
  obtain ⟨rfl, -⟩ := Prod.mk.inj heq
  exact ⟨actions ++ more, machine.run_append hrun (machine.run_singleton.mpr hgo)⟩

/-- The marks of a follower that starts. -/
def firstMarks (topic : Topic) (policy : ReconnectPolicy) (url : Option Url) : Marks :=
  let (f, actions) := start topic policy url
  marksIn f.state ((if url.isNone then [.down] else []) ++ doneMarks actions)

/-- A follower whose pump knows whether it asked its connection to close, and whose reader was not
asked to stop unless it did. -/
def Attentive (f : Follower) : Prop :=
  ∀ s, f.connection = some s → f.pump.phase = .driving s.closing ∧
    (s.closing = false → ∃ told taken, s.Consumed f.topic told taken ∧ .stop ∉ taken)

theorem happening?_event_eq_some {event : Option Event}
    (h : f.happening? occurrence = some (.event event)) :
    occurrence = .event ∧ ∃ s, f.connection = some s ∧
      (event = none ∧ s.nextEvent.1 = .ended ∨
        ∃ first rest, event = some first ∧ s.reader.events = first :: rest) := by
  cases occurrence with
  | event =>
    obtain ⟨s, hs, h⟩ := Option.bind_eq_some_iff.mp h
    refine ⟨rfl, s, hs, ?_⟩
    cases he : s.reader.events with
    | nil =>
      by_cases hclosed : s.reader.state = .closed
      · simp only [Subscription.nextEvent, he, if_pos hclosed, Option.some.injEq,
          Happening.event.injEq] at h ⊢
        exact .inl ⟨h.symm, trivial⟩
      · simp only [Subscription.nextEvent, he, if_neg hclosed] at h
        cases h
    | cons first rest =>
      rw [Subscription.nextEvent, he] at h
      cases h
      exact .inr ⟨first, rest, rfl, rfl⟩
  | attempt result => cases result <;> cases h
  | _ => cases h

/-- The queue of a connection does not end before its last event is taken. -/
theorem Sound.happening?_ne_none (hf : f.Sound) :
    f.happening? occurrence ≠ some (.event none) := by
  intro h
  obtain ⟨-, s, hs, ⟨-, hended⟩ | ⟨first, rest, hfirst, -⟩⟩ := happening?_event_eq_some h
  · obtain ⟨told, taken, hconsumed⟩ := hf.consumed s hs
    exact hconsumed.nextEvent_ne_ended hended
  · cases hfirst

/-- A connection that was not asked to close does not close on request. -/
theorem Attentive.happening?_ne_requested (hf : f.Attentive)
    (hphase : f.pump.phase = .driving false) :
    f.happening? occurrence ≠ some (.event (some (.closed .requested))) := by
  intro h
  obtain ⟨-, s, hs, ⟨hnone, -⟩ | ⟨first, rest, hfirst, he⟩⟩ := happening?_event_eq_some h
  · cases hnone
  · obtain rfl := Option.some.inj hfirst
    obtain ⟨hdriving, hunasked⟩ := hf s hs
    have hclosing : s.closing = false := (Phase.driving.inj (hphase.symm.trans hdriving)).symm
    obtain ⟨told, taken, hconsumed, hstop⟩ := hunasked hclosing
    obtain ⟨-, hend, -⟩ := hconsumed.of_closed_next he
    obtain ⟨signal, hmem, hending⟩ := List.exists_of_findSome?_eq_some hend
    rw [Signal.ending?_eq_requested.mp hending] at hmem
    exact hstop hmem

/-- A follower that starts is attentive. -/
theorem attentive_start (topic : Topic) (policy : ReconnectPolicy) (url : Option Url) :
    (start topic policy url).1.Attentive := by
  cases url with
  | none =>
    intro s hs
    cases hs
  | some url =>
    rintro s ⟨⟩
    exact ⟨rfl, fun _ => ⟨[], [], Subscription.consumed_start topic url, by simp⟩⟩

theorem Attentive.step (hf : f.Attentive) (hsound : f.Sound)
    (h : f.step occurrence = some (g, actions)) : g.Attentive := by
  have hspec := hsound.step_spec h
  obtain ⟨events, hchange, -⟩ := hspec.change
  have hpump := pump_of_step h
  intro s hs
  rw [hs] at hchange
  generalize hconnection : f.connection = connection at hchange
  rw [hspec.topic_eq]
  cases hchange with
  | close old =>
    obtain ⟨hphase, -⟩ := hf old hconnection
    obtain ⟨_, hsignal, -⟩ | ⟨_, ⟨⟩, hstep⟩ := hpump
    · cases hsignal
    · -- Only a pump that has not asked its connection to close sees that it has to stop.
      cases hclosing : old.closing with
      | true =>
        simp [Pump.step, hphase, hclosing] at hstep
      | false =>
        simp only [Pump.step, hphase, hclosing, Option.some.injEq, Prod.mk.injEq] at hstep
        rw [← hstep.1]
        exact ⟨rfl, fun hopen => by cases hopen⟩
  | receive old signal =>
    obtain ⟨hphase, hunasked⟩ := hf old hconnection
    obtain ⟨_, -, hsame, -⟩ | ⟨_, ⟨⟩, -⟩ := hpump
    rw [hsame, Subscription.closing_receive]
    refine ⟨hphase, fun hopen => ?_⟩
    obtain ⟨told, taken, hconsumed, hstop⟩ := hunasked hopen
    by_cases hsignal : signal = .stop
    · rw [Subscription.receive, if_pos ⟨hsignal, by simp [hopen]⟩]
      exact ⟨told, taken, hconsumed, hstop⟩
    · have hnext := (hconsumed.receive signal).resolve_right fun h => hsignal h.1
      exact ⟨told, _, hnext, by simp [hstop, Ne.symm hsignal]⟩
  | @take old event rest he hlast =>
    obtain ⟨hphase, hunasked⟩ := hf old hconnection
    obtain ⟨_, hsignal, -⟩ | ⟨happening, hhappening, hstep⟩ := hpump
    · cases hsignal
    · simp only [happening?, hconnection, Option.bind_some, Subscription.nextEvent, he,
        Option.some.injEq] at hhappening
      subst hhappening
      simp only [Pump.step, hphase, Option.some.injEq, Pump.drive_of_not_last hlast,
        Prod.mk.injEq] at hstep
      rw [← hstep.1]
      refine ⟨hphase, fun hopen => ?_⟩
      obtain ⟨told, taken, hconsumed, hstop⟩ := hunasked hopen
      exact ⟨_, taken, hconsumed.pop he hlast, hstop⟩
  | connect url =>
    obtain ⟨_, hsignal, -⟩ | ⟨_, ⟨⟩, hstep⟩ := hpump
    · cases hsignal
    · have hphase : g.pump.phase = .driving false := by
        unfold Pump.step at hstep
        split at hstep <;> simp_all only [reduceCtorEq, Option.some.injEq, Prod.mk.injEq]
        rw [← hstep.1]
      exact ⟨hphase, fun _ => ⟨[], [], Subscription.consumed_start f.topic url, by simp⟩⟩

/-- A follower under a policy, with the marks that were left so far: those of outages that were
overcome, and those of the present. -/
structure OnSchedule (policy : ReconnectPolicy) (f : Follower) (marks : Marks) : Prop where
  policy_eq : f.pump.policy = policy
  sound : f.Sound
  attentive : f.Attentive
  marks_eq : ∃ (past : List Marks) (last : Marks), marks = past.flatten ++ last ∧
    (∀ outage ∈ past, ∃ attempt < policy.maxAttempts, outage = policy.overcome attempt) ∧
    policy.Present f.pump.phase last

variable {marks more : Marks}

theorem onSchedule_start (hpolicy : policy.Limited) (topic : Topic) (url : Option Url) :
    OnSchedule policy (start topic policy url).1 (firstMarks topic policy url) := by
  obtain ⟨hsound, -, -, -⟩ := start_spec topic policy url
  have hattentive := attentive_start topic policy url
  cases url with
  | some url => exact ⟨rfl, hsound, hattentive, [], [], rfl, by simp, .driving⟩
  | none =>
    obtain ⟨hplan, hwait⟩ := Pump.plan_of_lt
      (p := { topic, policy, state := .connecting, phase := .ended }) hpolicy hpolicy.pos
    have hpump : (start topic policy none).1.pump =
        { topic, policy, state := .connecting, phase := .waiting 1 (policy.delayFor 0) } := hplan
    have hmarks : firstMarks topic policy none =
        policy.outset 0 ++ [(.wait (policy.delayFor 0), .connecting)] := by
      change marksIn (start topic policy none).1.pump.state
        ([.down] ++ doneMarks (start topic policy none).2) = _
      rw [hpump]
      exact congrArg (fun marks => marksIn .connecting ([.down] ++ marks)) hwait
    refine ⟨by rw [hpump], hsound, hattentive, [], _, hmarks, by simp, ?_⟩
    rw [hpump]
    exact .waiting hpolicy.pos

theorem OnSchedule.step (hpolicy : policy.Limited) (hf : OnSchedule policy f marks)
    (h : chronicle f occurrence = some (g, more)) : OnSchedule policy g (marks ++ more) := by
  obtain ⟨⟨_, actions⟩, hstep, hg⟩ := Option.map_eq_some_iff.mp h
  obtain ⟨rfl, rfl⟩ := Prod.mk.inj hg
  have hsound := (hf.sound.step_spec hstep).sound
  have hattentive := hf.attentive.step hf.sound hstep
  obtain ⟨past, last, rfl, hpast, hpresent⟩ := hf.marks_eq
  obtain ⟨signal, rfl, hpump, -⟩ | ⟨happening, hhappening, hpump⟩ := pump_of_step hstep
  · refine ⟨by rw [hpump, hf.policy_eq], hsound, hattentive, past, last, ?_, hpast, ?_⟩
    · exact List.append_nil _
    · rw [hpump]
      exact hpresent
  · have hlimited : f.pump.policy.Limited := by
      rw [hf.policy_eq]
      exact hpolicy
    obtain ⟨hsame, hgoes⟩ := Pump.goes_of_step hlimited (by rw [hf.policy_eq]; exact hpresent)
      hf.sound.state_eq (fun hnone => hf.sound.happening?_ne_none (hnone ▸ hhappening))
      (fun hphase hrequested =>
        hf.attentive.happening?_ne_requested hphase (hrequested ▸ hhappening)) hpump
    rw [hf.policy_eq] at hsame
    rw [hhappening]
    cases hgoes with
    | on hlast =>
      rw [hsame] at hlast
      exact ⟨hsame, hsound, hattentive, past, _, List.append_assoc .., hpast, hlast⟩
    | @overcome attempt hphase hattempt hmarks =>
      rw [hsame] at hattempt hmarks
      refine ⟨hsame, hsound, hattentive, past ++ [policy.overcome attempt], [], ?_, ?_, ?_⟩
      · rw [List.flatten_append, ← hmarks]
        simp [state]
      · intro outage houtage
        rcases List.mem_append.mp houtage with houtage | houtage
        · exact hpast outage houtage
        · exact ⟨attempt, hattempt, List.mem_singleton.mp houtage⟩
      · rw [hphase]
        exact .driving

theorem onSchedule_of_run (hpolicy : policy.Limited) {occurrences : List Occurrence}
    (h : chronicle.run (start topic policy url).1 occurrences = some (f, marks)) :
    OnSchedule policy f (firstMarks topic policy url ++ marks) := by
  refine Machine.run_induction
    (motive := fun _ f marks => OnSchedule policy f (firstMarks topic policy url ++ marks)) ?_ ?_ h
  · rw [List.append_nil]
    exact onSchedule_start hpolicy topic url
  · intro _ _ _ _ _ _ _ hf hstep
    rw [← List.append_assoc]
    exact hf.step hpolicy hstep

/-- **Outages keep their schedule.** In every run of a follower under a policy that limits the
number of attempts, the marks are those of outages one after another, each of which was overcome,
and those of the present (`ReconnectPolicy.Present`). An outage counts its attempts from zero; each
of them comes behind the delay that is its own, once, and the key is connecting all the while. The
outage ends with the first success, and then the key streams, or with the failure of the last
attempt that the policy allows, and then the key is closed for good. It goes on by itself: a delay
may be over, and an attempt may come out, at any time. The delays never get shorter and lie between
the initial one and the limit. -/
theorem outages_keep_schedule (hconfigured : policy.Configured) (hpolicy : policy.Limited)
    {occurrences : List Occurrence}
    (h : chronicle.run (start topic policy url).1 occurrences = some (f, marks)) :
    (∃ (past : List Marks) (last : Marks), firstMarks topic policy url ++ marks =
        past.flatten ++ last ∧
      (∀ outage ∈ past, ∃ attempt < policy.maxAttempts, outage = policy.overcome attempt) ∧
      policy.Present f.pump.phase last) ∧
    (∀ attempt, attempt + 1 = policy.maxAttempts →
      (policy.givenUp attempt).countP (·.1 = .connect) = policy.maxAttempts) ∧
    f.state = f.pump.phase.status ∧
    (f.pump.phase = .ended → ∀ occurrence, f.step occurrence = none) ∧
    (∀ attempt delay, f.pump.phase = .waiting attempt delay → (f.step .elapsed).isSome) ∧
    (∀ attempt, f.pump.phase = .opening attempt →
      ∀ result, (f.step (.attempt result)).isSome) ∧
    (∀ i j, i ≤ j → (policy.delayFor i).nanoseconds ≤ (policy.delayFor j).nanoseconds) ∧
    ∀ attempt, policy.initialDelay.nanoseconds ≤ (policy.delayFor attempt).nanoseconds ∧
      (policy.delayFor attempt).nanoseconds ≤ policy.maxDelay.nanoseconds := by
  have hf := onSchedule_of_run hpolicy h
  refine ⟨hf.marks_eq, fun attempt hlast => ?_, hf.sound.state_eq, fun hended occurrence => ?_,
    fun attempt delay hwaiting => ?_, fun attempt hopening result => ?_,
    fun i j => policy.delayFor_mono, hconfigured.delayFor_bounds⟩
  · rw [ReconnectPolicy.countP_connect_givenUp, hlast]
  · have hover : f.isOver = true := by rw [isOver, hended]; rfl
    exact step_of_isOver hf.sound hover
  · simp [Follower.step, advance, Pump.step, hwaiting]
  · cases result <;> simp [Follower.step, advance, Pump.step, hopening]

/-- What may happen to a feed with two outages: the second attempt of the first one succeeds, and
both attempts of the other fail. -/
def relapse (url : Url) (failure : Failure) : List Occurrence :=
  [.event, .signal .ended, .event, .elapsed, .attempt (.error failure), .elapsed,
    .attempt (.ok url), .event, .signal (.fault "reset"), .event, .elapsed,
    .attempt (.error failure), .elapsed, .attempt (.error failure)]

/-- The feed is back after two attempts the first time, and counts again from the first attempt the
second time, until it is given up. -/
theorem marks_of_relapse :
    ∃ f marks, chronicle.run (start ⟨"a", none, none, []⟩
        (.withMaxAttempts (.exponential (.ofMilliseconds 500) (.ofMilliseconds 700)) 2)
        (some Topic.belowSlashed)).1
        (relapse Topic.belowSlashed (.connection "ws://h/subscribe/a" (.io .refused))) =
          some (f, marks) ∧
      marks.map (·.1) =
        [.down, .wait (.ofMilliseconds 500), .elapsed, .connect, .failed,
          .wait (.ofMilliseconds 700), .elapsed, .connect, .opened,
          .down, .wait (.ofMilliseconds 500), .elapsed, .connect, .failed,
          .wait (.ofMilliseconds 700), .elapsed, .connect, .failed] ∧
      f.state = .closed ∧ ∀ occurrence, f.step occurrence = none := by
  have hrun : (chronicle.run (start ⟨"a", none, none, []⟩
      (.withMaxAttempts (.exponential (.ofMilliseconds 500) (.ofMilliseconds 700)) 2)
      (some Topic.belowSlashed)).1
      (relapse Topic.belowSlashed (.connection "ws://h/subscribe/a" (.io .refused)))).map
        (fun (f, marks) => (marks.map (·.1), f.pump.phase)) =
      some ([.down, .wait (.ofMilliseconds 500), .elapsed, .connect, .failed,
        .wait (.ofMilliseconds 700), .elapsed, .connect, .opened,
        .down, .wait (.ofMilliseconds 500), .elapsed, .connect, .failed,
        .wait (.ofMilliseconds 700), .elapsed, .connect, .failed], .ended) := by
    decide +kernel
  obtain ⟨⟨f, marks⟩, hrun, hseen⟩ := Option.map_eq_some_iff.mp hrun
  obtain ⟨hmarks, hphase⟩ := Prod.mk.inj hseen
  obtain ⟨-, -, hstate, hgood, -⟩ :=
    outages_keep_schedule (.exponential _ _ 2) ⟨rfl, by decide, by decide⟩ hrun
  exact ⟨f, marks, hrun, hmarks, by rw [hstate, hphase]; rfl, hgood hphase⟩

end Follower

end FeedRelay.Feed
