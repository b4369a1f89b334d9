import FeedRelay.Proofs.Feed.FollowerSteps
import FeedRelay.Proofs.Machine

/-!
# A follower that was told to stop

A follower that sees that it has to stop ends at once if it has no connection. If it has one, it
asks it to close and winds down: nothing but the reader's signals and the events of the connection
count any more, each event is handed on, and after the last of them the follower ends
(`Follower.WindsDown`). It neither waits nor connects again, whatever the reason of the close, and
it can always come to its end (`Follower.WindsDown.exists_end`).
-/

namespace FeedRelay.Feed

/-- The subscription with events that were taken put back before those that wait. -/
def Subscription.putBack (s : Subscription) (told : List Event) : Subscription :=
  { s with reader := { s.reader with events := told ++ s.reader.events } }

/-- Whether an action begins an attempt to connect, or the delay before one. -/
def Action.isRetry : Action → Bool
  | .wait _ | .connect => true
  | _ => false

/-- The signals among what happens to a follower. -/
def signalsIn (occurrences : List Occurrence) : List Signal :=
  occurrences.filterMap fun
    | .signal signal => some signal
    | _ => none

namespace Subscription

/-- A subscription as its reader leaves it after signals. -/
def receiveAll (s : Subscription) (signals : List Signal) : Subscription :=
  signals.foldl receive s

variable {s : Subscription}

/-- Events that were taken are no matter of the reader. -/
theorem putBack_receive (s : Subscription) (told : List Event) (signal : Signal) :
    (s.putBack told).receive signal = (s.receive signal).putBack told := by
  unfold receive
  by_cases h : signal = .stop ∧ !s.closing
  · rw [if_pos h, if_pos (by exact h)]
  · rw [if_neg h, if_neg (by exact h)]
    exact congrArg (fun reader => { s with reader }) (s.reader.react_with_append told signal)

theorem putBack_pop {event : Event} {rest : List Event} (told : List Event)
    (h : s.reader.events = event :: rest) :
    (s.pop rest).putBack (told ++ [event]) = s.putBack told := by
  simp [putBack, pop, h]

@[simp] theorem closing_receive (s : Subscription) (signal : Signal) :
    (s.receive signal).closing = s.closing := by
  unfold receive
  split <;> rfl

@[simp] theorem closing_receiveAll (s : Subscription) (signals : List Signal) :
    (s.receiveAll signals).closing = s.closing := by
  induction signals generalizing s with
  | nil => rfl
  | cons signal rest ih => exact (ih (s.receive signal)).trans (s.closing_receive signal)

/-- A reader that was asked to close is closed once it has seen that. -/
theorem state_receive_stop (h : s.closing = true) : (s.receive .stop).state = .closed := by
  unfold receive
  rw [if_neg (by simp [h])]
  by_cases hclosed : s.reader.state = .closed
  · rw [Reader.react_of_closed hclosed]
    exact hclosed
  · rw [Reader.react_of_ending hclosed rfl]
    rfl

end Subscription

namespace Follower

/-- Followers as a machine: what happens to one, and what it does about it. -/
def machine : Machine Follower Occurrence Action :=
  step

variable {f g : Follower} {c s : Subscription} {occurrence : Occurrence}
  {occurrences : List Occurrence} {actions : List Action} {told : List Event}

/-- What remains of the connection of a follower that saw that it has to stop: the subscription as
the reader leaves it, of which the events `told` were handed on. Either some wait or may still come,
or the last was handed on and the follower has ended. -/
inductive WindsDown (remains : Subscription) (f : Follower) (told : List Event) : Prop
  | driving {c : Subscription} (hphase : f.pump.phase = .driving true)
      (hconnection : f.connection = some c) (hremains : c.putBack told = remains)
      (htold : ∀ reason, .closed reason ∉ told)
  | ended {others : List Event} {reason : CloseReason} (hphase : f.pump.phase = .ended)
      (hconnection : f.connection = none) (htold : told = others ++ [.closed reason])
      (hremains : told = remains.reader.events) (hothers : ∀ reason, .closed reason ∉ others)

/-- What a step of a follower that winds down can be: its reader gets a signal, or an event is
handed on, after the last of which it ends. -/
theorem step_of_closing (hf : f.Sound) (hphase : f.pump.phase = .driving true)
    (hc : f.connection = some c) (h : f.step occurrence = some (g, actions)) :
    (∃ signal, occurrence = .signal signal ∧ actions = [] ∧
      g = { f with connection := some (c.receive signal) }) ∨
    (∃ event rest, occurrence = .event ∧ c.reader.events = event :: rest ∧
      (∀ reason, event ≠ .closed reason) ∧ actions = [.handle f.topic event] ∧
      g = { f with connection := some (c.pop rest) }) ∨
    ∃ reason, occurrence = .event ∧ c.reader.events = [.closed reason] ∧
      actions = [.handle f.topic (.closed reason)] ∧
      g = { pump := f.pump.finish, connection := none } := by
  obtain ⟨told, taken, hconsumed⟩ := hf.consumed c hc
  have hno (happening : Happening) (hnot : ∀ event, happening ≠ .event event)
      (connection : Option Subscription) : f.advance happening connection ≠ some (g, actions) := by
    intro h
    obtain ⟨p, hp, -⟩ := advance_eq_some.mp h
    cases happening with
    | event event => exact hnot event rfl
    | _ => simp [Pump.step, hphase] at hp
  cases occurrence with
  | stop => exact absurd h (hno _ (by simp) _)
  | elapsed => exact absurd h (hno _ (by simp) _)
  | attempt result => cases result <;> exact absurd h (hno _ (by simp) _)
  | signal signal =>
    rw [step, hc, Option.map_some, Option.some.injEq, Prod.mk.injEq] at h
    exact .inl ⟨signal, rfl, h.2.symm, h.1.symm⟩
  | event =>
    refine .inr ?_
    rw [step, hc, Option.bind_some] at h
    cases he : c.reader.events with
    | nil =>
      have hended := hconsumed.nextEvent_ne_ended
      simp only [Subscription.nextEvent, he] at h hended
      split at h <;> simp_all
    | cons event rest =>
      simp only [Subscription.nextEvent, he] at h
      obtain ⟨p, hp, rfl⟩ := advance_eq_some.mp h
      simp only [Pump.step, hphase, Option.some.injEq] at hp
      by_cases hlast : ∃ reason, event = .closed reason
      · obtain ⟨reason, rfl⟩ := hlast
        obtain rfl := hconsumed.eq_nil_of_closed_next he
        rw [Pump.drive_closed_of_local (.inl rfl), Prod.mk.injEq] at hp
        obtain ⟨rfl, rfl⟩ := hp
        exact .inr ⟨reason, rfl, rfl, rfl, rfl⟩
      · rw [not_exists] at hlast
        rw [Pump.drive_of_not_last hlast, Prod.mk.injEq] at hp
        obtain ⟨rfl, rfl⟩ := hp
        have hdriving : f.pump.isDriving = true := by rw [Pump.isDriving, hphase]
        rw [if_pos hdriving]
        exact .inl ⟨event, rest, rfl, rfl, hlast, rfl, rfl⟩

theorem isOver_of_ended (hphase : f.pump.phase = .ended) : f.isOver = true := by
  rw [isOver, hphase]
  rfl

/-- The events that are handed on bring a follower that winds down nearer to its end. -/
theorem WindsDown.step {remains : Subscription} (h : f.WindsDown remains told) (hf : f.Sound)
    (hstep : f.step occurrence = some (g, actions)) :
    (∀ action ∈ actions, action.isRetry = false) ∧
      ∃ events, toldOf actions = events.map (f.topic, ·) ∧
        g.WindsDown (remains.receiveAll (signalsIn [occurrence])) (told ++ events) := by
  cases h with
  | ended hphase =>
    rw [step_of_isOver hf (isOver_of_ended hphase)] at hstep
    cases hstep
  | @driving c hphase hc hremains htold =>
    rcases step_of_closing hf hphase hc hstep with ⟨signal, rfl, rfl, rfl⟩ |
      ⟨event, rest, rfl, he, hlast, rfl, rfl⟩ | ⟨reason, rfl, he, rfl, rfl⟩
    · refine ⟨by simp, [], rfl, .driving hphase rfl ?_ (by simpa using htold)⟩
      rw [List.append_nil, ← Subscription.putBack_receive, hremains]
      rfl
    · refine ⟨by simp [Action.isRetry], [event], rfl, .driving hphase rfl ?_ ?_⟩
      · rw [Subscription.putBack_pop told he, hremains]
        rfl
      · intro reason hmem
        rcases List.mem_append.mp hmem with hmem | hmem
        · exact htold reason hmem
        · exact hlast reason (List.mem_singleton.mp hmem).symm
    · refine ⟨by simp [Action.isRetry], [.closed reason], rfl, .ended rfl rfl rfl ?_ htold⟩
      change _ = remains.reader.events
      rw [← hremains, ← he]
      rfl

/-- A follower without a connection that sees that it has to stop ends at once. -/
theorem ended_of_stop (hf : f.Sound) (hnone : f.connection = none)
    (h : f.step .stop = some (g, actions)) :
    g = { pump := f.pump.finish, connection := none } ∧ actions = [] := by
  obtain ⟨p, hp, rfl⟩ := advance_eq_some.mp h
  have hdriving : f.pump.isDriving = false := by
    rw [← hf.isSome_connection, hnone]
    rfl
  cases hphase : f.pump.phase with
  | driving closing => simp [Pump.isDriving, hphase] at hdriving
  | waiting | opening =>
    simp only [Pump.step, hphase, Option.some.injEq, Prod.mk.injEq] at hp
    obtain ⟨rfl, rfl⟩ := hp
    exact ⟨rfl, rfl⟩
  | _ => simp [Pump.step, hphase] at hp

/-- A follower with a connection that sees that it has to stop asks it to close and winds down. -/
theorem windsDown_of_stop (hf : f.Sound) (hs : f.connection = some s)
    (h : f.step .stop = some (g, actions)) : g.WindsDown s.close [] ∧ actions = [.close] := by
  obtain ⟨p, hp, rfl⟩ := advance_eq_some.mp h
  have hdriving : f.pump.isDriving = true := by
    rw [← hf.isSome_connection, hs]
    rfl
  cases hphase : f.pump.phase with
  | driving closing =>
    cases closing with
    | true => simp [Pump.step, hphase] at hp
    | false =>
      simp only [Pump.step, hphase, Option.some.injEq, Prod.mk.injEq] at hp
      obtain ⟨rfl, rfl⟩ := hp
      rw [hs]
      exact ⟨.driving rfl rfl rfl (by simp), rfl⟩
  | _ => simp [Pump.isDriving, hphase] at hdriving

theorem sound_of_run (hf : f.Sound) (h : machine.run f occurrences = some (g, actions)) :
    g.Sound ∧ g.topic = f.topic :=
  Machine.run_induction (motive := fun _ g _ => g.Sound ∧ g.topic = f.topic) ⟨hf, rfl⟩
    (fun _ ⟨hg, htopic⟩ hstep =>
      have hspec := hg.step_spec hstep
      ⟨hspec.sound, hspec.topic_eq.trans htopic⟩) h

/-- What a follower does while it winds down. -/
theorem WindsDown.run {remains : Subscription} (h : f.WindsDown remains told) (hf : f.Sound)
    (hrun : machine.run f occurrences = some (g, actions)) :
    (∀ action ∈ actions, action.isRetry = false) ∧
      ∃ events, toldOf actions = events.map (f.topic, ·) ∧
        g.WindsDown (remains.receiveAll (signalsIn occurrences)) (told ++ events) := by
  refine Machine.run_induction
    (motive := fun occurrences g actions => (∀ action ∈ actions, action.isRetry = false) ∧
      ∃ events, toldOf actions = events.map (f.topic, ·) ∧
        g.WindsDown (remains.receiveAll (signalsIn occurrences)) (told ++ events))
    ⟨by simp, [], rfl, by rwa [List.append_nil]⟩ ?_ hrun
  rintro occurrences g actions occurrence k more hbefore ⟨hquiet, events, htold, hg⟩ hstep
  obtain ⟨hsound, htopic⟩ := sound_of_run hf hbefore
  obtain ⟨hstill, others, hothers, hk⟩ := hg.step hsound hstep
  refine ⟨fun action hmem => (List.mem_append.mp hmem).elim (hquiet action) (hstill action),
    events ++ others, ?_, ?_⟩
  · rw [toldOf, List.filterMap_append, ← toldOf, ← toldOf, htold, hothers, htopic, List.map_append]
  · rw [← List.append_assoc, signalsIn, List.filterMap_append, Subscription.receiveAll,
      List.foldl_append]
    exact hk

/-- Once its reader has closed, a follower that winds down ends when it has handed on what waits. -/
private theorem exists_end_of_closed {events : List Event} (hf : f.Sound)
    (hphase : f.pump.phase = .driving true) (hc : f.connection = some c)
    (he : c.reader.events = events) (hclosed : c.state = .closed) :
    ∃ g actions, machine.run f (List.replicate events.length .event) = some (g, actions) ∧
      g.pump.phase = .ended := by
  induction events generalizing f c with
  | nil =>
    obtain ⟨told, taken, hconsumed⟩ := hf.consumed c hc
    have hended := hconsumed.nextEvent_ne_ended
    have hclosed : c.reader.state = .closed := hclosed
    simp [Subscription.nextEvent, he, hclosed] at hended
  | cons event rest ih =>
    obtain ⟨told, taken, hconsumed⟩ := hf.consumed c hc
    have hevent : f.step .event = f.advance (.event (some event)) (some (c.pop rest)) := by
      rw [Follower.step, hc, Option.bind_some, Subscription.nextEvent, he]
      rfl
    have hgo {p : Pump} (hp : f.pump.drive true (some event) = (p, [.handle f.topic event])) :
        machine f .event = some ({ pump := p, connection := if p.isDriving then some (c.pop rest)
          else none }, [.handle f.topic event]) := by
      rw [machine, hevent, advance]
      simp [Pump.step, hphase, hp]
    by_cases hlast : ∃ reason, event = .closed reason
    · obtain ⟨reason, rfl⟩ := hlast
      obtain rfl := hconsumed.eq_nil_of_closed_next he
      exact ⟨_, _, machine.run_singleton.mpr (hgo (Pump.drive_closed_of_local (.inl rfl))), rfl⟩
    · rw [not_exists] at hlast
      have hstep := hgo (Pump.drive_of_not_last hlast)
      have hdriving : f.pump.isDriving = true := by rw [Pump.isDriving, hphase]
      rw [if_pos hdriving] at hstep
      obtain ⟨g, actions, hrun, hg⟩ := ih (hf.step_spec hstep).sound hphase rfl rfl hclosed
      exact ⟨g, _, machine.run_append (machine.run_singleton.mpr hstep) hrun, hg⟩

/-- A follower that winds down ends when its reader has seen that it was asked to close and the
events that wait have been handed on. -/
theorem WindsDown.exists_end {remains : Subscription} (h : f.WindsDown remains told) (hf : f.Sound)
    (hclosing : remains.closing = true) (hphase : f.pump.phase ≠ .ended) :
    ∃ n g actions, machine.run f (.signal .stop :: List.replicate n .event) = some (g, actions) ∧
      g.pump.phase = .ended := by
  cases h with
  | ended hended => exact absurd hended hphase
  | @driving c hdriving hc hremains htold =>
    have hstep : machine f (.signal .stop) =
        some ({ f with connection := some (c.receive .stop) }, []) := by
      rw [machine, Follower.step, hc]
      rfl
    have hclosing : c.closing = true := by
      rw [← hremains] at hclosing
      exact hclosing
    obtain ⟨g, actions, hrun, hg⟩ := exists_end_of_closed (hf.step_spec hstep).sound hdriving rfl
      rfl (Subscription.state_receive_stop hclosing)
    exact ⟨_, g, _, machine.run_append (machine.run_singleton.mpr hstep) hrun, hg⟩

theorem state_eq_closed (hf : f.Sound) (hphase : f.pump.phase = .ended) : f.state = .closed := by
  rw [hf.state_eq, hphase]
  rfl

/-- Nothing happens to a follower that is over. -/
theorem run_of_isOver (hf : f.Sound) (hover : f.isOver = true)
    (h : machine.run f occurrences = some (g, actions)) : g = f ∧ actions = [] := by
  cases occurrences with
  | nil =>
    obtain ⟨rfl, rfl⟩ := Prod.mk.inj (Option.some.inj h)
    exact ⟨rfl, rfl⟩
  | cons occurrence rest =>
    obtain ⟨⟨r, first⟩, hfirst, -⟩ := Option.bind_eq_some_iff.mp h
    cases (step_of_isOver hf hover).symm.trans hfirst

theorem WindsDown.phase_ne_stuck {remains : Subscription} (h : f.WindsDown remains told) :
    f.pump.phase ≠ .stuck := by
  cases h with
  | driving hphase | ended hphase => simp [hphase]

/-- A follower that has seen that it has to stop does not get stuck. -/
theorem phase_ne_stuck_of_stop (hf : f.Sound) (h : machine.run f occurrences = some (g, actions))
    (hstop : .stop ∈ occurrences) : g.pump.phase ≠ .stuck := by
  obtain ⟨before, later, rfl⟩ := List.append_of_mem hstop
  obtain ⟨r, first, rest, hbefore, hrest, -⟩ := machine.run_append_eq_some.mp h
  obtain ⟨⟨k, stopped⟩, hstep, hrest⟩ := Option.bind_eq_some_iff.mp hrest
  obtain ⟨⟨_, more⟩, hlater, heq⟩ := Option.map_eq_some_iff.mp hrest
  obtain rfl := congrArg Prod.fst heq
  obtain ⟨hr, -⟩ := sound_of_run hf hbefore
  have hk := (hr.step_spec hstep).sound
  cases hconnection : r.connection with
  | none =>
    obtain ⟨rfl, -⟩ := ended_of_stop hr hconnection hstep
    obtain ⟨rfl, -⟩ := run_of_isOver hk rfl hlater
    simp [Pump.finish]
  | some s =>
    obtain ⟨-, events, -, hdown⟩ := (windsDown_of_stop hr hconnection hstep).1.run hk hlater
    exact hdown.phase_ne_stuck

end Follower

end FeedRelay.Feed
