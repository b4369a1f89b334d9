import FeedRelay.Feed.Follower
import FeedRelay.Proofs.Feed.Consumption

/-!
# What a step of a follower can do

A follower is sound if it has a connection exactly while its pump hands on events, if its state is
the one that belongs to what its pump is doing, and if events were taken from its connection but
the last one. A step keeps soundness, and what it does to the connection is one of a few things
(`Change`): it leaves it at rest, asks it to close, lets its reader go on, hands on an event that
is not the last, hands on the last event and gives the connection up, or makes a connection.
`Follower.Sound.step_spec` gathers all that later modules use of a step.
-/

namespace FeedRelay.Feed

/-- The state that belongs to what a pump is doing. -/
def Phase.status : Phase → State
  | .driving _ => .streaming
  | .waiting _ _ | .opening _ | .stuck => .connecting
  | .ended => .closed

/-- Whether a pump does nothing any more. -/
def Phase.isOver : Phase → Bool
  | .stuck | .ended => true
  | _ => false

/-- The ways in which the state of a key changes. -/
def State.movesTo : State → State → Bool
  | .streaming, .connecting | .connecting, .streaming => true
  | .streaming, .closed | .connecting, .closed => true
  | _, _ => false

/-- The event that an action hands on, with its topic. -/
def Action.told? : Action → Option (Topic × Event)
  | .handle topic event => some (topic, event)
  | _ => none

/-- The events that actions hand on, with their topics. -/
def toldOf (actions : List Action) : List (Topic × Event) :=
  actions.filterMap Action.told?

@[simp] theorem toldOf_handle (topic : Topic) (event : Event) (rest : List Action) :
    toldOf (.handle topic event :: rest) = (topic, event) :: toldOf rest := rfl

/-- What an occurrence does to the connection of the follower of a topic, with the events that are
handed on. -/
inductive Change (topic : Topic) :
    Option Subscription → Occurrence → Option Subscription → List Event → Prop
  | rest (occurrence : Occurrence) (h : ∀ url, occurrence ≠ .attempt (.ok url)) :
      Change topic none occurrence none []
  | close (s : Subscription) : Change topic (some s) .stop (some s.close) []
  | receive (s : Subscription) (signal : Signal) :
      Change topic (some s) (.signal signal) (some (s.receive signal)) []
  | take (s : Subscription) {event : Event} {rest : List Event}
      (he : s.reader.events = event :: rest) (h : ∀ reason, event ≠ .closed reason) :
      Change topic (some s) .event (some (s.pop rest)) [event]
  | last (s : Subscription) {reason : CloseReason} {rest : List Event}
      (he : s.reader.events = .closed reason :: rest) :
      Change topic (some s) .event none [.closed reason]
  | connect (url : Url) : Change topic none (.attempt (.ok url)) (some (.start topic url)) []

namespace Pump

variable {p : Pump}

/-- A plan is to wait, to be stuck or to end, and nothing is handed on. A first plan never gets
stuck. -/
theorem plan_spec (made : Nat) (h : made = 0 ∨ p.state = .connecting) :
    (p.plan made).1.topic = p.topic ∧ (p.plan made).1.isDriving = false ∧
      (p.plan made).1.state = (p.plan made).1.phase.status ∧
      ((p.plan made).1.state = .connecting ∨ (p.plan made).1.state = .closed) ∧
      toldOf (p.plan made).2 = [] := by
  unfold plan
  split
  · split
    · rename_i hlimit
      have hmade : made ≠ 0 := by
        rintro rfl
        exact absurd hlimit (by decide)
      have hstate := h.resolve_left hmade
      exact ⟨rfl, rfl, hstate, Or.inl hstate, rfl⟩
    · exact ⟨rfl, rfl, rfl, Or.inl rfl, rfl⟩
  · refine ⟨rfl, rfl, rfl, Or.inr rfl, ?_⟩
    split <;> rfl

/-- After the end of a connection that was asked for, the pump ends. -/
theorem drive_closed_of_local {closing : Bool} {reason : CloseReason}
    (h : closing = true ∨ reason = .requested) :
    p.drive closing (some (.closed reason)) =
      (p.finish, [.handle p.finish.topic (.closed reason)]) := by
  simp only [drive, if_pos h]

/-- After any other end, the pump plans to connect again. -/
theorem drive_closed_of_not_local {closing : Bool} {reason : CloseReason}
    (h : ¬(closing = true ∨ reason = .requested)) :
    p.drive closing (some (.closed reason)) = ((p.plan 0).1,
      .handle (p.plan 0).1.topic (.closed reason) :: (p.plan 0).2) := by
  simp only [drive, if_neg h]

/-- An event that is not the last is handed on, and that is all. -/
theorem drive_of_not_last {closing : Bool} {event : Event}
    (h : ∀ reason, event ≠ .closed reason) :
    p.drive closing (some event) = (p, [.handle p.topic event]) := by
  cases event with
  | closed reason => exact absurd rfl (h reason)
  | _ => rfl

/-- A failure is noted when an attempt is being made, and the next one is planned. -/
theorem step_failed_eq_some {failure : Failure} {q : Pump} {actions : List Action}
    (h : p.step (.failed failure) = some (q, actions)) :
    ∃ attempt, p.phase = .opening attempt ∧ q = (p.plan attempt).1 ∧
      ∃ line, actions = .log line :: (p.plan attempt).2 := by
  unfold step at h
  split at h <;> simp_all only [reduceCtorEq, Option.some.injEq, Prod.mk.injEq]
  obtain ⟨rfl, rfl⟩ := h
  exact ⟨_, rfl, rfl, _, rfl⟩

end Pump

namespace Follower

/-- Whether a follower does nothing any more. -/
def isOver (f : Follower) : Bool :=
  f.pump.phase.isOver

/-- A follower whose parts agree. -/
structure Sound (f : Follower) : Prop where
  state_eq : f.state = f.pump.phase.status
  isSome_connection : f.connection.isSome = f.pump.isDriving
  consumed : ∀ s, f.connection = some s → ∃ told taken, s.Consumed f.topic told taken

/-- What a step comes to: a change of the connection that hands on events while the key streams, a
move of the state at most, and a sound follower of the same topic. -/
structure StepSpec (f : Follower) (occurrence : Occurrence) (g : Follower)
    (actions : List Action) : Prop where
  topic_eq : g.topic = f.topic
  sound : g.Sound
  isOver_eq : f.isOver = false
  state_cases : g.state = f.state ∨ f.state.movesTo g.state = true
  change : ∃ events, Change f.topic f.connection occurrence g.connection events ∧
    toldOf actions = events.map (f.topic, ·)
  streaming_of_told : toldOf actions ≠ [] → f.state = .streaming

variable {f g : Follower} {occurrence : Occurrence} {actions : List Action}

theorem sound_of_no_connection (hstate : f.state = f.pump.phase.status)
    (hconnection : f.connection = none) (hdriving : f.pump.isDriving = false) : f.Sound where
  state_eq := hstate
  isSome_connection := by rw [hconnection, hdriving]; rfl
  consumed s hs := by rw [hconnection] at hs; cases hs

/-- A follower that starts is sound, follows its topic and has handed on nothing. -/
theorem start_spec (topic : Topic) (policy : ReconnectPolicy) (url : Option Url) :
    (start topic policy url).1.Sound ∧ (start topic policy url).1.topic = topic ∧
      (start topic policy url).1.connection = url.map (Subscription.start topic) ∧
      toldOf (start topic policy url).2 = [] := by
  cases url with
  | some url =>
    refine ⟨⟨rfl, rfl, ?_⟩, rfl, rfl, rfl⟩
    rintro s ⟨⟩
    exact ⟨[], [], Subscription.consumed_start topic url⟩
  | none =>
    obtain ⟨htopic, hdriving, hstate, -, htold⟩ :=
      Pump.plan_spec (p := { topic, policy, state := .connecting, phase := .ended }) 0 (Or.inl rfl)
    exact ⟨sound_of_no_connection hstate rfl hdriving, htopic, rfl, htold⟩

theorem advance_eq_some {happening : Happening} {connection : Option Subscription} :
    f.advance happening connection = some (g, actions) ↔
      ∃ p, f.pump.step happening = some (p, actions) ∧
        g = { pump := p, connection := if p.isDriving then connection else none } := by
  simp only [advance, Option.map_eq_some_iff, Prod.exists, Prod.mk.injEq]
  constructor
  · rintro ⟨p, _, hp, rfl, rfl⟩
    exact ⟨p, hp, rfl⟩
  · rintro ⟨p, hp, rfl⟩
    exact ⟨p, actions, hp, rfl, rfl⟩

/-- What an occurrence is to the pump of a follower; what the reader gets is nothing to it. -/
def happening? (f : Follower) : Occurrence → Option Happening
  | .stop => some .stop
  | .signal _ => none
  | .event => f.connection.bind fun s =>
      match s.nextEvent.1 with
      | .ready event => some (.event (some event))
      | .ended => some (.event none)
      | .waiting => none
  | .elapsed => some .elapsed
  | .attempt (.ok _) => some .opened
  | .attempt (.error failure) => some (.failed failure)

/-- A step of a follower leaves its pump as it is or is a step of the pump. -/
theorem pump_of_step (h : f.step occurrence = some (g, actions)) :
    (∃ signal, occurrence = .signal signal ∧ g.pump = f.pump ∧ actions = []) ∨
      ∃ happening, f.happening? occurrence = some happening ∧
        f.pump.step happening = some (g.pump, actions) := by
  have hadvance {happening : Happening} {connection : Option Subscription}
      (h : f.advance happening connection = some (g, actions)) :
      f.pump.step happening = some (g.pump, actions) := by
    obtain ⟨p, hp, rfl⟩ := advance_eq_some.mp h
    exact hp
  cases occurrence with
  | stop => exact .inr ⟨.stop, rfl, hadvance h⟩
  | signal signal =>
    obtain ⟨s, -, h⟩ := Option.map_eq_some_iff.mp h
    obtain ⟨rfl, rfl⟩ := Prod.mk.inj h
    exact .inl ⟨signal, rfl, rfl, rfl⟩
  | event =>
    refine .inr ?_
    obtain ⟨s, hs, h⟩ := Option.bind_eq_some_iff.mp h
    simp only [happening?, hs, Option.bind_some]
    rcases hnext : s.nextEvent with ⟨taken, rest⟩
    rw [hnext] at h
    cases taken with
    | ready event => exact ⟨_, rfl, hadvance h⟩
    | ended => exact ⟨_, rfl, hadvance h⟩
    | waiting => cases h
  | elapsed => exact .inr ⟨.elapsed, rfl, hadvance h⟩
  | attempt result =>
    cases result with
    | ok url => exact .inr ⟨.opened, rfl, hadvance h⟩
    | error failure => exact .inr ⟨.failed failure, rfl, hadvance h⟩

namespace Sound

theorem exists_connection (hf : f.Sound) (h : f.pump.isDriving = true) :
    ∃ s, f.connection = some s :=
  Option.isSome_iff_exists.mp (hf.isSome_connection.trans h)

theorem connection_eq_none (hf : f.Sound) (h : f.pump.isDriving = false) : f.connection = none :=
  Option.not_isSome_iff_eq_none.mp (by rw [hf.isSome_connection, h]; exact Bool.false_ne_true)

/-- A follower ends when it is told to while it has no connection. -/
private theorem finish_spec (hf : f.Sound) (hdriving : f.pump.isDriving = false)
    (hstate : f.state = .connecting) (hover : f.isOver = false)
    (hchange : ∀ url, occurrence ≠ .attempt (.ok url)) :
    f.StepSpec occurrence { pump := f.pump.finish, connection := none } [] where
  topic_eq := rfl
  sound := sound_of_no_connection rfl rfl rfl
  isOver_eq := hover
  state_cases := Or.inr (by rw [hstate]; rfl)
  change := ⟨[], by rw [hf.connection_eq_none hdriving]; exact .rest _ hchange, rfl⟩
  streaming_of_told h := absurd rfl h

private theorem step_stop (hf : f.Sound) (h : f.step .stop = some (g, actions)) :
    f.StepSpec .stop g actions := by
  obtain ⟨p, hp, rfl⟩ := advance_eq_some.mp h
  obtain ⟨⟨topic, policy, state, phase⟩, connection⟩ := f
  obtain rfl : state = phase.status := hf.state_eq
  cases phase with
  | driving closing =>
    cases closing with
    | true => cases hp
    | false =>
      cases hp
      obtain ⟨s, rfl⟩ := hf.exists_connection rfl
      obtain ⟨told, taken, hs⟩ := hf.consumed s rfl
      refine ⟨rfl, ⟨rfl, rfl, ?_⟩, rfl, Or.inl rfl, ⟨[], .close s, rfl⟩, fun _ => rfl⟩
      rintro t ⟨⟩
      exact ⟨told, taken, hs.close⟩
  | waiting attempt delay =>
    cases hp
    exact hf.finish_spec rfl rfl rfl (by simp)
  | opening attempt =>
    cases hp
    exact hf.finish_spec rfl rfl rfl (by simp)
  | stuck => cases hp
  | ended => cases hp

private theorem step_signal (hf : f.Sound) {signal : Signal}
    (h : f.step (.signal signal) = some (g, actions)) :
    f.StepSpec (.signal signal) g actions := by
  obtain ⟨⟨topic, policy, state, phase⟩, connection⟩ := f
  obtain rfl : state = phase.status := hf.state_eq
  cases connection with
  | none => cases h
  | some s =>
    cases h
    obtain ⟨told, taken, hs⟩ := hf.consumed s rfl
    cases phase with
    | driving closing =>
      refine ⟨rfl, ⟨rfl, rfl, ?_⟩, rfl, Or.inl rfl, ⟨[], .receive s signal, rfl⟩, fun _ => rfl⟩
      rintro t ⟨⟩
      rcases hs.receive signal with hs' | ⟨-, heq⟩
      · exact ⟨told, _, hs'⟩
      · exact ⟨told, taken, by rw [heq]; exact hs⟩
    | _ => cases hf.isSome_connection

/-- The last event is handed on: the connection is given up, and the pump plans what is next. -/
private theorem step_last (hf : f.Sound) {s : Subscription} {reason : CloseReason}
    {rest : List Event} (hs : f.connection = some s)
    (he : s.reader.events = .closed reason :: rest) {closing : Bool}
    (hphase : f.pump.phase = .driving closing) {p : Pump}
    (hp : f.pump.drive closing (some (.closed reason)) = (p, actions)) :
    f.StepSpec .event { pump := p, connection := none } actions := by
  have hstreaming : f.state = .streaming := hf.state_eq.trans (by rw [hphase]; rfl)
  have hchange : Change f.topic f.connection .event none [.closed reason] := by
    rw [hs]
    exact .last s he
  have hover : f.isOver = false := by
    rw [isOver, hphase]
    rfl
  by_cases hlocal : closing ∨ reason = .requested
  · rw [Pump.drive_closed_of_local hlocal, Prod.mk.injEq] at hp
    obtain ⟨rfl, rfl⟩ := hp
    exact ⟨rfl, sound_of_no_connection rfl rfl rfl, hover,
      Or.inr (by rw [hstreaming]; rfl), ⟨_, hchange, rfl⟩, fun _ => hstreaming⟩
  · rw [Pump.drive_closed_of_not_local hlocal, Prod.mk.injEq] at hp
    obtain ⟨rfl, rfl⟩ := hp
    obtain ⟨htopic, hdriving, hstate, hcases, htold⟩ :=
      Pump.plan_spec (p := f.pump) 0 (Or.inl rfl)
    refine ⟨htopic, sound_of_no_connection hstate rfl hdriving, hover, Or.inr ?_,
      ⟨_, hchange, ?_⟩, fun _ => hstreaming⟩
    · rw [hstreaming]
      rcases hcases with hc | hc
      · exact congrArg (State.movesTo .streaming) hc
      · exact congrArg (State.movesTo .streaming) hc
    · rw [toldOf_handle, htold, htopic]
      rfl

private theorem step_event (hf : f.Sound) (h : f.step .event = some (g, actions)) :
    f.StepSpec .event g actions := by
  obtain ⟨s, hs, hstep⟩ := Option.bind_eq_some_iff.mp h
  obtain ⟨told, taken, hconsumed⟩ := hf.consumed s hs
  have hdriving : f.pump.isDriving = true := by
    rw [← hf.isSome_connection, hs]
    rfl
  obtain ⟨closing, hphase⟩ : ∃ closing, f.pump.phase = .driving closing := by
    unfold Pump.isDriving at hdriving
    split at hdriving
    · exact ⟨_, ‹_›⟩
    · cases hdriving
  have hstreaming : f.state = .streaming := hf.state_eq.trans (by rw [hphase]; rfl)
  cases he : s.reader.events with
  | nil =>
    have hended := hconsumed.nextEvent_ne_ended
    simp only [Subscription.nextEvent, he] at hstep hended
    split at hstep <;> simp_all
  | cons event rest =>
    simp only [Subscription.nextEvent, he] at hstep
    obtain ⟨p, hp, rfl⟩ := advance_eq_some.mp hstep
    simp only [Pump.step, hphase, Option.some.injEq] at hp
    by_cases hlast : ∃ reason, event = .closed reason
    · obtain ⟨reason, rfl⟩ := hlast
      have hspec := hf.step_last hs he hphase hp
      have hnone : p.isDriving = false := hspec.sound.isSome_connection.symm
      rw [hnone]
      exact hspec
    · have hlast' : ∀ reason, event ≠ .closed reason := fun reason hr => hlast ⟨reason, hr⟩
      rw [Pump.drive_of_not_last hlast', Prod.mk.injEq] at hp
      obtain ⟨rfl, rfl⟩ := hp
      rw [hdriving, if_pos rfl]
      refine ⟨rfl, ⟨hf.state_eq, hdriving.symm, ?_⟩, ?_, Or.inl rfl,
        ⟨[event], by rw [hs]; exact .take s he hlast', rfl⟩, fun _ => hstreaming⟩
      · rintro t ⟨⟩
        exact ⟨_, taken, hconsumed.pop he hlast'⟩
      · rw [isOver, hphase]
        rfl

private theorem step_elapsed (hf : f.Sound) (h : f.step .elapsed = some (g, actions)) :
    f.StepSpec .elapsed g actions := by
  obtain ⟨p, hp, rfl⟩ := advance_eq_some.mp h
  obtain ⟨⟨topic, policy, state, phase⟩, connection⟩ := f
  obtain rfl : state = phase.status := hf.state_eq
  cases phase with
  | driving closing => cases closing <;> cases hp
  | waiting attempt delay =>
    cases hp
    obtain rfl : connection = none := hf.connection_eq_none rfl
    exact ⟨rfl, sound_of_no_connection rfl rfl rfl, rfl, Or.inl rfl,
      ⟨[], .rest _ (by simp), rfl⟩, fun h => absurd rfl h⟩
  | _ => cases hp

private theorem step_opened (hf : f.Sound) {url : Url}
    (h : f.step (.attempt (.ok url)) = some (g, actions)) :
    f.StepSpec (.attempt (.ok url)) g actions := by
  obtain ⟨p, hp, rfl⟩ := advance_eq_some.mp h
  obtain ⟨⟨topic, policy, state, phase⟩, connection⟩ := f
  obtain rfl : state = phase.status := hf.state_eq
  cases phase with
  | driving closing => cases closing <;> cases hp
  | opening attempt =>
    cases hp
    obtain rfl : connection = none := hf.connection_eq_none rfl
    refine ⟨rfl, ⟨rfl, rfl, ?_⟩, rfl, Or.inr rfl, ⟨[], .connect url, rfl⟩, fun h => absurd rfl h⟩
    rintro s ⟨⟩
    exact ⟨[], [], Subscription.consumed_start topic url⟩
  | _ => cases hp

private theorem step_failed (hf : f.Sound) {failure : Failure}
    (h : f.step (.attempt (.error failure)) = some (g, actions)) :
    f.StepSpec (.attempt (.error failure)) g actions := by
  obtain ⟨p, hp, rfl⟩ := advance_eq_some.mp h
  obtain ⟨attempt, hphase, rfl, line, rfl⟩ := Pump.step_failed_eq_some hp
  have hconnecting : f.state = .connecting := hf.state_eq.trans (by rw [hphase]; rfl)
  have hdriving : f.pump.isDriving = false := by
    rw [Pump.isDriving, hphase]
  obtain ⟨htopic, hnone, hstate, hcases, htold⟩ :=
    Pump.plan_spec (p := f.pump) attempt (Or.inr hconnecting)
  refine ⟨htopic, ?_, ?_, ?_, ⟨[], ?_, htold⟩, fun h => absurd htold h⟩
  · exact sound_of_no_connection hstate (by rw [ite_self]) hnone
  · rw [isOver, hphase]
    rfl
  · rw [hconnecting]
    rcases hcases with hc | hc
    · exact Or.inl hc
    · exact Or.inr (congrArg (State.movesTo .connecting) hc)
  · rw [hf.connection_eq_none hdriving, ite_self]
    exact .rest _ (by simp)

/-- All that later modules use of a step. -/
theorem step_spec (hf : f.Sound) (h : f.step occurrence = some (g, actions)) :
    f.StepSpec occurrence g actions := by
  cases occurrence with
  | stop => exact hf.step_stop h
  | signal signal => exact hf.step_signal h
  | event => exact hf.step_event h
  | elapsed => exact hf.step_elapsed h
  | attempt result =>
    cases result with
    | ok url => exact hf.step_opened h
    | error failure => exact hf.step_failed h

end Sound

/-- A follower that is over makes no step. -/
theorem step_of_isOver (hf : f.Sound) (hover : f.isOver = true) : f.step occurrence = none := by
  cases hstep : f.step occurrence with
  | none => rfl
  | some next =>
    rw [(hf.step_spec hstep).isOver_eq] at hover
    cases hover

end Follower

end FeedRelay.Feed
