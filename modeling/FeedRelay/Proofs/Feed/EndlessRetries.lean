import FeedRelay.Proofs.Feed.Outages
import FeedRelay.Proofs.Feed.TaskHistory

/-!
# Retries without a limit

A policy may set no limit to the number of attempts. Then an outage lasts until an attempt succeeds
or the follower sees that it has to stop, and every attempt that fails is followed by the delay of
the next one. The counter of attempts has a limit all the same: with one failure less than it can
count, there is no next attempt, and the follower is stuck.

## Main results

* `Follower.lasts_of_run`: the marks of an outage that lasts, and what the follower is doing, are
  those that the number of failures tells.
* `Follower.retries_while_counted`: while the failures can be counted, the follower goes on to the
  next attempt, and after that it makes no step any more. Every number of failures up to there
  occurs.
-/

namespace FeedRelay.ReconnectPolicy

open Feed

variable (policy : ReconnectPolicy)

/-- A policy that connects again and sets no limit to the number of attempts. -/
structure Unlimited : Prop where
  enabled : policy.enabled = true
  maxAttempts_eq : policy.maxAttempts = 0

variable {policy} in
theorem Unlimited.allows (h : policy.Unlimited) (attempt : Nat) : policy.allows attempt = true := by
  simp [ReconnectPolicy.allows, h.enabled, h.maxAttempts_eq]

/-- What can be seen of an outage that lasts, by the number of attempts that have failed and what
the pump is doing: it waits for the next attempt or makes it, or is stuck since it cannot count that
one. -/
inductive Lasting : Nat → Phase → Marks → Prop
  | waiting {failures : Nat} (h : failures + 1 < Pump.attemptLimit) :
      Lasting failures (.waiting (failures + 1) (policy.delayFor failures))
        (policy.outset failures ++ [(.wait (policy.delayFor failures), .connecting)])
  | opening {failures : Nat} (h : failures + 1 < Pump.attemptLimit) :
      Lasting failures (.opening (failures + 1))
        (policy.outset failures ++ marksIn .connecting (policy.trial failures))
  | stuck {failures : Nat} (h : failures + 1 = Pump.attemptLimit) :
      Lasting failures .stuck (policy.outset failures)

end FeedRelay.ReconnectPolicy

namespace FeedRelay.Feed

variable {policy : ReconnectPolicy}

namespace Pump

variable {p : Pump} {made : Nat}

/-- Without a limit, and with a number that can be counted, a pump plans the next attempt. -/
theorem plan_of_unlimited (hp : p.policy.Unlimited) (h : made + 1 < attemptLimit) :
    (p.plan made).1 =
        { p with state := .connecting, phase := .waiting (made + 1) (p.policy.delayFor made) } ∧
      doneMarks (p.plan made).2 = [.wait (p.policy.delayFor made)] :=
  plan_of_allows (hp.allows made) h

/-- A pump that cannot count the next attempt is stuck. -/
theorem plan_of_uncounted (hp : p.policy.Unlimited) (h : attemptLimit ≤ made + 1) :
    p.plan made = ({ p with phase := .stuck }, []) := by
  rw [plan, if_pos (hp.allows made), if_pos h]

end Pump

namespace Follower

variable {f g : Follower} {occurrence : Occurrence} {occurrences : List Occurrence}
  {actions : List Action} {first marks more : Marks} {failures : Nat}

/-- A follower in an outage that lasts, with the marks that were left since it began and the number
of attempts that have failed. -/
structure Lasts (policy : ReconnectPolicy) (failures : Nat) (f : Follower) (marks : Marks) :
    Prop where
  policy_eq : f.pump.policy = policy
  state_eq : f.pump.state = .connecting
  connection_eq : f.connection = none
  lasting : policy.Lasting failures f.pump.phase marks

/-- An outage begins when a follower starts without a connection, or loses one. -/
inductive OutageBegins (policy : ReconnectPolicy) : Follower → Marks → Prop
  | start (topic : Topic) :
      OutageBegins policy (Follower.start topic policy none).1 (firstMarks topic policy none)
  | lost {f g : Follower} {marks : Marks} {happening : Happening} (hpolicy : f.pump.policy = policy)
      (hhappening : f.happening? .event = some happening)
      (hloses : f.pump.loses happening = true) (h : chronicle f .event = some (g, marks)) :
      OutageBegins policy g marks

/-- A pump that loses its connection plans the first attempt. -/
private theorem loses_eq_true {p : Pump} {happening : Happening} (h : p.loses happening = true) :
    ∃ reason topic, happening = .event (some (.closed reason)) ∧ reason ≠ .requested ∧
      p.phase = .driving false ∧
      p.step happening = some ((p.plan 0).1, .handle topic (.closed reason) :: (p.plan 0).2) := by
  unfold Pump.loses at h
  split at h
  · rename_i reason hphase
    have hreason : reason ≠ .requested := of_decide_eq_true h
    refine ⟨reason, (p.plan 0).1.topic, rfl, hreason, hphase, ?_⟩
    have hstep : p.step (.event (some (.closed reason))) =
        some (p.drive false (some (.closed reason))) := by
      simp only [Pump.step, hphase]
    rw [hstep, Pump.drive_closed_of_not_local (by simp [hreason])]
  · cases h

/-- A follower keeps no connection whose events it does not hand on. -/
private theorem connection_of_event (h : f.step .event = some (g, actions))
    (hdriving : g.pump.isDriving = false) : g.connection = none := by
  have hadvance {happening : Happening} {connection : Option Subscription}
      (h : f.advance happening connection = some (g, actions)) : g.connection = none := by
    obtain ⟨p, -, rfl⟩ := advance_eq_some.mp h
    exact if_neg (by simp [hdriving])
  obtain ⟨s, -, h⟩ := Option.bind_eq_some_iff.mp h
  split at h
  · exact hadvance h
  · exact hadvance h
  · cases h

/-- At its beginning an outage lasts, and no attempt has failed. -/
theorem OutageBegins.lasts (hpolicy : policy.Unlimited) (h : OutageBegins policy f first) :
    Lasts policy 0 f first := by
  have hcount : 0 + 1 < Pump.attemptLimit := by decide
  cases h with
  | start topic =>
    obtain ⟨hplan, hwait⟩ := Pump.plan_of_unlimited
      (p := { topic, policy, state := .connecting, phase := .ended }) hpolicy hcount
    have hpump : (Follower.start topic policy none).1.pump =
        { topic, policy, state := .connecting, phase := .waiting 1 (policy.delayFor 0) } := hplan
    have hmarks : firstMarks topic policy none =
        policy.outset 0 ++ [(.wait (policy.delayFor 0), .connecting)] := by
      change marksIn (Follower.start topic policy none).1.pump.state
        ([.down] ++ doneMarks (Follower.start topic policy none).2) = _
      rw [hpump]
      exact congrArg (fun marks => marksIn .connecting ([.down] ++ marks)) hwait
    refine ⟨by rw [hpump], by rw [hpump], rfl, ?_⟩
    rw [hpump, hmarks]
    exact .waiting hcount
  | @lost e _ _ happening hsame hhappening hloses h =>
    obtain ⟨⟨_, actions⟩, hstep, hg⟩ := Option.map_eq_some_iff.mp h
    obtain ⟨rfl, rfl⟩ := Prod.mk.inj hg
    obtain ⟨reason, topic, rfl, hreason, hphase, hlast⟩ := loses_eq_true hloses
    obtain ⟨hplan, hwait⟩ := Pump.plan_of_unlimited (p := e.pump) (by rw [hsame]; exact hpolicy)
      hcount
    obtain ⟨_, hsignal, -⟩ | ⟨_, hsame', hpumped⟩ := pump_of_step hstep
    · cases hsignal
    obtain rfl := Option.some.inj (hhappening.symm.trans hsame')
    obtain ⟨hpump, rfl⟩ := Prod.mk.inj (Option.some.inj (hlast.symm.trans hpumped))
    rw [hplan, hsame] at hpump
    rw [hsame] at hwait
    refine ⟨by rw [← hpump], by rw [← hpump],
      connection_of_event hstep (by rw [← hpump]; rfl), ?_⟩
    have hmarks : e.pump.marksOf (.event (some (.closed reason)))
        (.handle topic (.closed reason) :: (e.pump.plan 0).2) =
          [.down, .wait (policy.delayFor 0)] := by
      simp [Pump.marksOf, hloses, Happening.mark?, hwait]
    rw [hhappening, Option.elim_some, hmarks, state, ← hpump]
    exact .waiting hcount

/-! ### Runs -/

/-- Nothing but the end of a delay or the failure of an attempt happens to a follower in an outage,
unless it is told to stop or an attempt succeeds. -/
theorem Lasts.step (hpolicy : policy.Unlimited) (hf : Lasts policy failures f marks)
    (hstop : occurrence ≠ .stop) (hopened : ∀ url, occurrence ≠ .attempt (.ok url))
    (h : chronicle f occurrence = some (g, more)) :
    Lasts policy (failures + [occurrence].countP Occurrence.isFailure) g (marks ++ more) := by
  obtain ⟨⟨_, actions⟩, hstep, hg⟩ := Option.map_eq_some_iff.mp h
  obtain ⟨rfl, rfl⟩ := Prod.mk.inj hg
  obtain ⟨⟨topic, policy', state, phase⟩, connection⟩ := f
  obtain ⟨rfl, rfl, rfl, hlasting⟩ := hf
  change policy'.Lasting failures phase marks at hlasting
  change policy'.Unlimited at hpolicy
  cases occurrence with
  | stop => exact absurd rfl hstop
  | signal signal => cases hstep
  | event => cases hstep
  | elapsed =>
    cases hlasting with
    | waiting hcount =>
      cases hstep
      refine ⟨rfl, rfl, rfl, ?_⟩
      rw [List.append_assoc]
      exact .opening hcount
    | opening => cases hstep
    | stuck => cases hstep
  | attempt result =>
    cases result with
    | ok url => exact absurd rfl (hopened url)
    | error failure =>
      cases hlasting with
      | waiting => cases hstep
      | stuck => cases hstep
      | opening hcount =>
        obtain ⟨p, hp, rfl⟩ := advance_eq_some.mp hstep
        obtain ⟨_, hphase, rfl, line, rfl⟩ := Pump.step_failed_eq_some hp
        obtain rfl := Phase.opening.inj hphase
        have hfailed : [Occurrence.attempt (.error failure)].countP Occurrence.isFailure = 1 := rfl
        have hmarks := Pump.marksOf_failed ⟨topic, policy', .connecting, .opening (failures + 1)⟩
          failure line
        by_cases hnext : failures + 1 + 1 < Pump.attemptLimit
        · obtain ⟨hplan, hwait⟩ := Pump.plan_of_unlimited
            (p := ⟨topic, policy', .connecting, .opening (failures + 1)⟩) hpolicy hnext
          rw [hfailed, hplan]
          refine ⟨rfl, rfl, rfl, ?_⟩
          simp only [happening?, Option.elim_some, hmarks, hwait]
          have hlasting : policy'.Lasting (failures + 1) _ _ := .waiting hnext
          rw [ReconnectPolicy.outset_succ, List.append_assoc] at hlasting
          exact hlasting
        · have hplan := Pump.plan_of_uncounted
            (p := ⟨topic, policy', .connecting, .opening (failures + 1)⟩) hpolicy
            (Nat.not_lt.mp hnext)
          have hlast : failures + 1 + 1 = Pump.attemptLimit := by omega
          rw [hfailed]
          simp only [happening?, Option.elim_some, hmarks, hplan]
          refine ⟨rfl, rfl, rfl, ?_⟩
          have hlasting : policy'.Lasting (failures + 1) _ _ := .stuck hlast
          rw [ReconnectPolicy.outset_succ] at hlasting
          exact hlasting

/-- **An outage that lasts.** Without a limit to the number of attempts, while the follower is not
told to stop and no attempt succeeds, the number of attempts that have failed tells what was seen of
the outage and what the follower is doing. -/
theorem lasts_of_run (hpolicy : policy.Unlimited) (hbegin : OutageBegins policy f first)
    (h : chronicle.run f occurrences = some (g, marks)) (hstop : .stop ∉ occurrences)
    (hopened : ∀ url, .attempt (.ok url) ∉ occurrences) :
    Lasts policy (occurrences.countP Occurrence.isFailure) g (first ++ marks) := by
  revert hstop hopened
  refine Machine.run_induction (motive := fun occurrences g marks => .stop ∉ occurrences →
    (∀ url, .attempt (.ok url) ∉ occurrences) →
    Lasts policy (occurrences.countP Occurrence.isFailure) g (first ++ marks)) ?_ ?_ h
  · intro _ _
    rw [List.append_nil]
    exact hbegin.lasts hpolicy
  · intro before e _ occurrence _ _ _ hbefore hstep hstop hopened
    rw [List.mem_append, not_or] at hstop
    have hopened' (url : Url) := not_or.mp fun h => hopened url (List.mem_append.mpr h)
    have hlasts := hbefore hstop.1 fun url => (hopened' url).1
    rw [List.countP_append, ← List.append_assoc]
    exact hlasts.step hpolicy (fun heq => hstop.2 (by simp [heq]))
      (fun url heq => (hopened' url).2 (by simp [heq])) hstep

/-- While the failures can be counted, a follower comes to the next attempt, if need be by the end
of a delay. -/
theorem Lasts.exists_attempt (hf : Lasts policy failures f marks)
    (hcount : failures + 1 < Pump.attemptLimit) :
    ∃ occurrences g more, (occurrences = [] ∨ occurrences = [.elapsed]) ∧
      chronicle.run f occurrences = some (g, more) ∧ g.pump.phase = .opening (failures + 1) ∧
      marks ++ more = policy.outset failures ++ marksIn .connecting (policy.trial failures) := by
  obtain ⟨⟨topic, policy', state, phase⟩, connection⟩ := f
  obtain ⟨rfl, rfl, rfl, hlasting⟩ := hf
  change policy'.Lasting failures phase marks at hlasting
  cases hlasting with
  | waiting =>
    exact ⟨[.elapsed], _, _, .inr rfl, rfl, rfl, List.append_assoc ..⟩
  | opening => exact ⟨[], _, _, .inl rfl, rfl, rfl, List.append_nil _⟩
  | stuck h => omega

/-- A follower that cannot count the next attempt is stuck. -/
theorem Lasts.phase_eq_stuck (hf : Lasts policy failures f marks)
    (hcount : failures + 1 = Pump.attemptLimit) : f.pump.phase = .stuck := by
  have hlasting := hf.lasting
  generalize f.pump.phase = phase at hlasting
  cases hlasting with
  | waiting => omega
  | opening => omega
  | stuck => rfl

/-- A follower that cannot count the next attempt makes no step any more. -/
theorem Lasts.step_eq_none (hf : Lasts policy failures f marks)
    (hcount : failures + 1 = Pump.attemptLimit) (occurrence : Occurrence) :
    f.step occurrence = none := by
  have hphase := hf.phase_eq_stuck hcount
  obtain ⟨⟨topic, policy', state, phase⟩, connection⟩ := f
  obtain rfl : phase = .stuck := hphase
  obtain rfl : connection = none := hf.connection_eq
  cases occurrence with
  | attempt result => cases result <;> rfl
  | _ => rfl

/-- The failure of an attempt that a server refuses. -/
def refusedAttempt : Failure :=
  .connection "ws://h/subscribe/a" (.io .refused)

/-- Every number of failures that leaves the next attempt to be counted, or is one more than such,
occurs. -/
theorem exists_run_of_failures (hpolicy : policy.Unlimited) (hbegin : OutageBegins policy f first)
    (failure : Failure) (hcount : failures < Pump.attemptLimit) :
    ∃ occurrences g marks, chronicle.run f occurrences = some (g, marks) ∧ .stop ∉ occurrences ∧
      (∀ url, .attempt (.ok url) ∉ occurrences) ∧
      occurrences.countP Occurrence.isFailure = failures := by
  induction failures with
  | zero => exact ⟨[], f, [], rfl, by simp, by simp, rfl⟩
  | succ failures ih =>
    obtain ⟨before, e, marks, hrun, hstop, hopened, hfailures⟩ := ih (by omega)
    have hlasts := lasts_of_run hpolicy hbegin hrun hstop hopened
    rw [hfailures] at hlasts
    obtain ⟨wait, d, more, hwait, hgo, hphase, -⟩ := hlasts.exists_attempt hcount
    obtain ⟨⟨g, last⟩, hstep⟩ :
        ∃ next, chronicle d (.attempt (.error failure)) = some next := by
      simp [chronicle, Follower.step, advance, Pump.step, hphase]
    have hall := chronicle.run_append hrun
      (chronicle.run_append hgo (chronicle.run_singleton.mpr hstep))
    have hnone : wait.countP Occurrence.isFailure = 0 ∧ .stop ∉ wait ∧
        ∀ url, .attempt (.ok url) ∉ wait := by
      rcases hwait with rfl | rfl <;> simp [Occurrence.isFailure]
    have hone : [Occurrence.attempt (.error failure)].countP Occurrence.isFailure = 1 := rfl
    refine ⟨_, _, _, hall, ?_, fun url => ?_, ?_⟩
    · simp [hstop, hnone.2.1]
    · simp [hopened url, hnone.2.2 url]
    · rw [List.countP_append, List.countP_append, hfailures, hnone.1, hone, Nat.zero_add]

/-- **Retries without a limit.** In an outage under a policy that sets no limit to the number of
attempts, as long as the follower is not told to stop and no attempt succeeds, the follower has seen
the schedule of the failures so far. If the counter can count one more attempt, the follower waits
for it or makes it, and the wait is not shorter than the one before. If the counter cannot, the
follower makes no step any more. Every number of failures up to that one occurs. -/
theorem retries_while_counted (hpolicy : policy.Unlimited) (hbegin : OutageBegins policy f first) :
    (∀ {occurrences : List Occurrence} {g : Follower} {marks : Marks},
      chronicle.run f occurrences = some (g, marks) → .stop ∉ occurrences →
      (∀ url, .attempt (.ok url) ∉ occurrences) →
      ∃ failures, occurrences.countP Occurrence.isFailure = failures ∧
        policy.Lasting failures g.pump.phase (first ++ marks) ∧
        (failures + 1 < Pump.attemptLimit →
          ∃ wait h more, (wait = [] ∨ wait = [.elapsed]) ∧
            chronicle.run g wait = some (h, more) ∧ h.pump.phase = .opening (failures + 1) ∧
            first ++ marks ++ more =
              policy.outset failures ++ marksIn .connecting (policy.trial failures)) ∧
        (failures + 1 = Pump.attemptLimit → ∀ occurrence, g.step occurrence = none)) ∧
    (∀ failures < Pump.attemptLimit, ∃ occurrences g marks,
      chronicle.run f occurrences = some (g, marks) ∧ .stop ∉ occurrences ∧
      (∀ url, .attempt (.ok url) ∉ occurrences) ∧
      occurrences.countP Occurrence.isFailure = failures) ∧
    ∀ attempt, (policy.delayFor attempt).nanoseconds ≤
      (policy.delayFor (attempt + 1)).nanoseconds := by
  refine ⟨fun hrun hstop hopened => ?_, fun failures hcount => ?_,
    fun attempt => policy.delayFor_mono (Nat.le_succ attempt)⟩
  · have hlasts := lasts_of_run hpolicy hbegin hrun hstop hopened
    exact ⟨_, rfl, hlasts.lasting, hlasts.exists_attempt, hlasts.step_eq_none⟩
  · exact exists_run_of_failures hpolicy hbegin refusedAttempt hcount

/-- After two failures the follower waits for the third attempt, and comes to it. -/
theorem third_retry_of_two_failures :
    ∃ g marks, chronicle.run
        (start ⟨"a", none, none, []⟩ (.exponential (.ofMilliseconds 500) (.ofMilliseconds 700))
          none).1
        [.elapsed, .attempt (.error refusedAttempt), .elapsed,
          .attempt (.error refusedAttempt)] = some (g, marks) ∧
      ∃ wait h more, (wait = [] ∨ wait = [.elapsed]) ∧ chronicle.run g wait = some (h, more) ∧
        h.pump.phase = .opening 3 := by
  have hsome : (chronicle.run
      (start ⟨"a", none, none, []⟩ (.exponential (.ofMilliseconds 500) (.ofMilliseconds 700))
        none).1
      [.elapsed, .attempt (.error refusedAttempt), .elapsed,
        .attempt (.error refusedAttempt)]).isSome = true := by
    decide +kernel
  obtain ⟨⟨g, marks⟩, hrun⟩ := Option.isSome_iff_exists.mp hsome
  have hpolicy : ReconnectPolicy.Unlimited
      (.exponential (.ofMilliseconds 500) (.ofMilliseconds 700)) := ⟨rfl, rfl⟩
  obtain ⟨hruns, -⟩ := retries_while_counted hpolicy (.start ⟨"a", none, none, []⟩)
  obtain ⟨failures, hfailures, -, hnext, -⟩ := hruns hrun (by simp) (by simp)
  obtain rfl : 2 = failures := hfailures
  obtain ⟨wait, h, more, hwait, hgo, hphase, -⟩ := hnext (by decide)
  exact ⟨g, marks, hrun, wait, h, more, hwait, hgo, hphase⟩

/-- With as many failures as the counter can count, the follower is stuck although its policy sets
no limit. -/
theorem stuck_of_counted_failures :
    ∃ occurrences g marks, chronicle.run
        (start ⟨"a", none, none, []⟩ (.exponential (.ofMilliseconds 500) (.ofMilliseconds 8000))
          none).1 occurrences = some (g, marks) ∧
      .stop ∉ occurrences ∧ (∀ url, .attempt (.ok url) ∉ occurrences) ∧
      occurrences.countP Occurrence.isFailure = 4294967295 ∧
      ∀ occurrence, g.step occurrence = none := by
  have hpolicy : ReconnectPolicy.Unlimited
      (.exponential (.ofMilliseconds 500) (.ofMilliseconds 8000)) := ⟨rfl, rfl⟩
  have hbegin : OutageBegins (.exponential (.ofMilliseconds 500) (.ofMilliseconds 8000)) _ _ :=
    .start ⟨"a", none, none, []⟩
  have hlast : 4294967295 + 1 = Pump.attemptLimit := by decide +kernel
  obtain ⟨occurrences, g, marks, hrun, hstop, hopened, hfailures⟩ :=
    exists_run_of_failures hpolicy hbegin refusedAttempt (Nat.lt_of_succ_le (Nat.le_of_eq hlast))
  have hlasts := lasts_of_run hpolicy hbegin hrun hstop hopened
  rw [hfailures] at hlasts
  exact ⟨occurrences, g, marks, hrun, hstop, hopened, hfailures, hlasts.step_eq_none hlast⟩

end Follower

end FeedRelay.Feed
