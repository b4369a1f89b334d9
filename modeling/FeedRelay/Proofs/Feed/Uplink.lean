import Mathlib.Data.List.Chain
import Mathlib.Data.List.Forall2
import FeedRelay.Proofs.Feed.FollowerSteps
import FeedRelay.Proofs.Machine

/-!
# A follower and its upstream

An uplink is a follower with what its upstream delivers: signals arrive on the present connection
in order, and the reader takes them one by one, the first one first, unless it stops before. The
moves of an uplink are arrivals and the occurrences of its follower, so a run is a run of the pump
under any behaviour of the upstream on each connection and any choice of what comes first. What can
be seen of the key is the calls of the handler and the changes of the state.

## Main results

* `Uplink.callbacks_and_states`: the calls of the handler fall into one block for each connection; a
  block opens, hands on messages and closes, and only that of the present connection may be
  unfinished. The handler is called only while the key streams, the state moves as it should, and
  it is closed if and only if the pump has ended.
-/

namespace FeedRelay.Feed

/-- A follower, the signals that arrived on its connection and were not read yet, all signals that
arrived on this connection, and those that arrived on each connection before. -/
structure Uplink where
  follower : Follower
  unread : List Signal
  arrived : List Signal
  past : List (List Signal)

/-- What can be seen of a key: the handler is called with an event, or the state changes. -/
inductive Sight where
  | told (topic : Topic) (event : Event)
  | state (now : State)

/-- The event that a sight tells. -/
def Sight.event? : Sight → Option Event
  | .told _ event => some event
  | .state _ => none

/-- The state that a sight shows. -/
def Sight.state? : Sight → Option State
  | .told _ _ => none
  | .state now => some now

/-- The events that the handler was called with. -/
def callbacks (sights : List Sight) : List Event :=
  sights.filterMap Sight.event?

/-- The states that the key went through. -/
def statesOf (sights : List Sight) : List State :=
  sights.filterMap Sight.state?

/-- The state of the key after some sights. -/
def stateAfter (initial : State) (sights : List Sight) : State :=
  (statesOf sights).getLastD initial

/-- What can be seen of a step between two followers. -/
def sightsOf (f g : Follower) (actions : List Action) : List Sight :=
  (toldOf actions).map (fun (topic, event) => .told topic event) ++
    if g.state = f.state then [] else [.state g.state]

namespace Uplink

/-- A signal arrives from the upstream, or something happens to the follower. -/
inductive Move where
  | arrive (signal : Signal)
  | occur (occurrence : Occurrence)

/-- The uplink of a follower that starts. -/
def start (topic : Topic) (policy : ReconnectPolicy) (url : Option Url) : Uplink where
  follower := (Follower.start topic policy url).1
  unread := []
  arrived := []
  past := []

/-- What is left to read when something happens: the reader takes the signal that arrived first, or
finds that it was asked to stop. -/
def read? (u : Uplink) : Occurrence → Option (List Signal)
  | .signal .stop => some u.unread
  | .signal signal =>
    match u.unread with
    | first :: rest => if first = signal then some rest else none
    | [] => none
  | _ => some u.unread

/-- Go on with a follower. What arrived on a connection that was given up is past. -/
def goOn (u : Uplink) (g : Follower) : Uplink :=
  if u.follower.connection.isSome ∧ g.connection = none then
    { follower := g, unread := [], arrived := [], past := u.past ++ [u.arrived] }
  else { u with follower := g }

/-- The machine of uplinks. -/
def machine : Machine Uplink Move Sight
  | u, .arrive signal =>
    if u.follower.connection.isSome ∧ signal ≠ .stop then
      some ({ u with unread := u.unread ++ [signal], arrived := u.arrived ++ [signal] }, [])
    else none
  | u, .occur occurrence =>
    (u.read? occurrence).bind fun unread =>
      (u.follower.step occurrence).map fun (g, actions) =>
        ({ u with unread }.goOn g, sightsOf u.follower g actions)

/-- A finished block, of a connection on which signals arrived: it opens, hands on messages with the
key, and closes. The messages are the first data frames that arrived, and all of them if the close
was not asked for; then its reason is that of the first signal that ends the connection. -/
def IsBlock (key : String) (arrived : List Signal) (block : List Event) : Prop :=
  ∃ (messages : List Message) (reason : CloseReason),
    block = .opened :: messages.map .message ++ [.closed reason] ∧
    (∀ message ∈ messages, message.topic = key) ∧
    messages.map Message.toFrame <+: dataOf arrived ∧
    (reason ≠ .requested →
      messages.map Message.toFrame = dataOf arrived ∧ endOf arrived = some reason)

/-- A block that is not finished. -/
def IsBegun (key : String) (arrived : List Signal) (block : List Event) : Prop :=
  block = [] ∨ ∃ messages : List Message, block = .opened :: messages.map .message ∧
    (∀ message ∈ messages, message.topic = key) ∧ messages.map Message.toFrame <+: dataOf arrived

variable {u v : Uplink} {occurrence : Occurrence} {sights : List Sight}

theorem machine_occur_eq_some :
    machine u (.occur occurrence) = some (v, sights) ↔
      ∃ unread g actions, u.read? occurrence = some unread ∧
        u.follower.step occurrence = some (g, actions) ∧ v = { u with unread }.goOn g ∧
        sights = sightsOf u.follower g actions := by
  simp only [machine, Option.bind_eq_some_iff, Option.map_eq_some_iff, Prod.exists,
    Prod.mk.injEq]
  constructor
  · rintro ⟨unread, hread, g, actions, hstep, rfl, rfl⟩
    exact ⟨unread, g, actions, hread, hstep, rfl, rfl⟩
  · rintro ⟨unread, g, actions, hread, hstep, rfl, rfl⟩
    exact ⟨unread, hread, g, actions, hstep, rfl, rfl⟩

theorem machine_arrive_eq_some {signal : Signal} :
    machine u (.arrive signal) = some (v, sights) ↔
      (u.follower.connection.isSome ∧ signal ≠ .stop) ∧
        { u with unread := u.unread ++ [signal], arrived := u.arrived ++ [signal] } = v ∧
        [] = sights := by
  simp only [machine, Option.ite_none_right_eq_some, Option.some.injEq, Prod.mk.injEq]

@[simp] theorem follower_goOn (u : Uplink) (g : Follower) : (u.goOn g).follower = g := by
  unfold goOn
  split <;> rfl

theorem goOn_of_given_up (g : Follower) (h : u.follower.connection.isSome)
    (hg : g.connection = none) :
    u.goOn g = { follower := g, unread := [], arrived := [], past := u.past ++ [u.arrived] } := by
  rw [goOn, if_pos ⟨h, hg⟩]

theorem goOn_of_kept (g : Follower) (h : ¬(u.follower.connection.isSome ∧ g.connection = none)) :
    u.goOn g = { u with follower := g } := by
  rw [goOn, if_neg h]

@[simp] theorem callbacks_nil : callbacks [] = [] := rfl

@[simp] theorem callbacks_append (sights more : List Sight) :
    callbacks (sights ++ more) = callbacks sights ++ callbacks more :=
  List.filterMap_append

@[simp] theorem statesOf_append (sights more : List Sight) :
    statesOf (sights ++ more) = statesOf sights ++ statesOf more :=
  List.filterMap_append

/-- A step shows the events that it hands on. -/
theorem callbacks_sightsOf (f g : Follower) (actions : List Action) :
    callbacks (sightsOf f g actions) = (toldOf actions).map (·.2) := by
  rw [sightsOf, callbacks_append]
  have hstate : callbacks (if g.state = f.state then [] else [.state g.state]) = [] := by
    split <;> rfl
  rw [hstate, List.append_nil, callbacks, List.filterMap_map, ← List.filterMap_eq_map]
  rfl

/-- The events told so far fall into the blocks of the past connections and that of the present
one, of which the signals `taken` were read. -/
def InBlocks (topic : Topic) (u : Uplink) (told : List Event) : Prop :=
  ∃ blocks last, told = blocks.flatten ++ last ∧
    List.Forall₂ (IsBlock topic.displayKey) u.past blocks ∧
    ((u.follower.connection = none ∧ last = [] ∧ u.arrived = [] ∧ u.unread = []) ∨
      ∃ s taken, u.follower.connection = some s ∧ s.Consumed topic last taken ∧
        u.arrived = taken.filter (· ≠ .stop) ++ u.unread)

variable {topic : Topic} {told : List Event}

theorem inBlocks_start (topic : Topic) (policy : ReconnectPolicy) (url : Option Url) :
    InBlocks topic (start topic policy url) [] := by
  obtain ⟨-, -, hconnection, -⟩ := Follower.start_spec topic policy url
  refine ⟨[], [], rfl, .nil, ?_⟩
  cases url with
  | none => exact Or.inl ⟨hconnection, rfl, rfl, rfl⟩
  | some url =>
    exact Or.inr ⟨_, [], hconnection, Subscription.consumed_start topic url, rfl⟩

private theorem inBlocks_arrive {signal : Signal} (hu : InBlocks topic u told)
    (h : machine u (.arrive signal) = some (v, sights)) :
    InBlocks topic v (told ++ callbacks sights) := by
  obtain ⟨⟨hconnected, -⟩, rfl, rfl⟩ := machine_arrive_eq_some.mp h
  obtain ⟨blocks, last, rfl, hpast, hpresent⟩ := hu
  refine ⟨blocks, last, List.append_nil _, hpast, Or.inr ?_⟩
  rcases hpresent with ⟨hnone, -⟩ | ⟨s, taken, hs, hconsumed, harrived⟩
  · rw [hnone] at hconnected
    cases hconnected
  · exact ⟨s, taken, hs, hconsumed, by rw [harrived, List.append_assoc]⟩

/-- The connection goes on, and the handler is called with some of its events. -/
private theorem inBlocks_of_kept {g : Follower} {unread : List Signal} {s t : Subscription}
    {events : List Event} (hu : InBlocks topic u told) (hs : u.follower.connection = some s)
    (ht : g.connection = some t)
    (hnext : ∀ last taken, s.Consumed topic last taken →
      u.arrived = taken.filter (· ≠ .stop) ++ u.unread →
      ∃ taken', t.Consumed topic (last ++ events) taken' ∧
        u.arrived = taken'.filter (· ≠ .stop) ++ unread) :
    InBlocks topic ({ u with unread }.goOn g) (told ++ events) := by
  obtain ⟨blocks, last, rfl, hpast, ⟨hnone, -⟩ | ⟨s', taken, hs', hconsumed, harrived⟩⟩ := hu
  · rw [hnone] at hs
    cases hs
  · rw [hs] at hs'
    obtain rfl : s = s' := Option.some.inj hs'
    obtain ⟨taken', hconsumed', harrived'⟩ := hnext last taken hconsumed harrived
    rw [goOn_of_kept g (by rw [ht]; simp)]
    exact ⟨blocks, last ++ events, List.append_assoc .., hpast,
      Or.inr ⟨t, taken', ht, hconsumed', harrived'⟩⟩

/-- What the reader reads is the first that arrived. -/
private theorem arrived_of_read? {signal : Signal} {unread taken : List Signal}
    (hread : u.read? (.signal signal) = some unread)
    (h : u.arrived = taken.filter (· ≠ .stop) ++ u.unread) :
    u.arrived = (taken ++ [signal]).filter (· ≠ .stop) ++ unread := by
  by_cases hstop : signal = .stop
  · subst hstop
    obtain rfl : u.unread = unread := Option.some.inj hread
    simpa using h
  · have hunread : u.unread = signal :: unread := by
      unfold read? at hread
      split at hread
      · cases ‹Occurrence.signal signal = .signal .stop›
        exact absurd rfl hstop
      · rename_i heq
        cases heq
        split at hread
        · rename_i first rest hfirst
          rw [Option.ite_none_right_eq_some] at hread
          rw [hfirst, hread.1, Option.some.inj hread.2]
        · cases hread
      · rename_i hno
        exact absurd rfl (hno signal)
    rw [h, hunread, List.filter_append, List.filter_cons_of_pos (by simpa using hstop)]
    simp

private theorem eq_nil_of_read? {unread : List Signal} (hread : u.read? occurrence = some unread)
    (h : u.unread = []) : unread = [] := by
  unfold read? at hread
  rw [h] at hread
  split at hread
  · exact (Option.some.inj hread).symm
  · cases hread
  · exact (Option.some.inj hread).symm

/-- With its last event a connection has a finished block. -/
private theorem isBlock_of_last {s : Subscription} {last rest : List Event}
    {taken unread arrived : List Signal} {reason : CloseReason} (hs : s.Consumed topic last taken)
    (he : s.reader.events = .closed reason :: rest)
    (harrived : arrived = taken.filter (· ≠ .stop) ++ unread) :
    IsBlock topic.displayKey arrived (last ++ [.closed reason]) := by
  obtain ⟨hlast, hend, -⟩ := hs.of_closed_next he
  have hpre : messagesOf topic.displayKey taken <+: messagesOf topic.displayKey arrived := by
    rw [harrived]
    exact messagesOf_prefix
  obtain ⟨htopics, hframes⟩ := carried_of_prefix hpre
  refine ⟨_, reason, by rw [hlast], htopics, hframes, fun hreason => ?_⟩
  obtain ⟨hall, hend'⟩ : messagesOf topic.displayKey (taken.filter (· ≠ .stop) ++ unread) =
      messagesOf topic.displayKey taken ∧
      endOf (taken.filter (· ≠ .stop) ++ unread) = some reason :=
    messagesOf_eq_of_endOf hend hreason
  rw [harrived, ← hall, map_toFrame_messagesOf]
  exact ⟨rfl, hend'⟩

private theorem inBlocks_occur (hu : InBlocks topic u told) (hsound : u.follower.Sound)
    (htopic : u.follower.topic = topic)
    (h : machine u (.occur occurrence) = some (v, sights)) :
    InBlocks topic v (told ++ callbacks sights) := by
  obtain ⟨unread, g, actions, hread, hstep, rfl, rfl⟩ := machine_occur_eq_some.mp h
  obtain ⟨events, hchange, hevents⟩ := (hsound.step_spec hstep).change
  have hcallbacks : callbacks (sightsOf u.follower g actions) = events := by
    rw [callbacks_sightsOf, hevents, List.map_map]
    exact List.map_id _
  rw [hcallbacks]
  rw [htopic] at hchange
  generalize hc : u.follower.connection = c at hchange
  generalize hd : g.connection = d at hchange
  -- Only the last event of a connection and a new connection change the blocks.
  cases hchange with
  | rest _ hno =>
    obtain ⟨blocks, last, rfl, hpast, ⟨-, hlast, harrived, hunread⟩ | ⟨s, taken, hs, -⟩⟩ := hu
    · rw [goOn_of_kept g (by rw [hc]; simp)]
      exact ⟨blocks, last, List.append_nil _, hpast,
        Or.inl ⟨hd, hlast, harrived, eq_nil_of_read? hread hunread⟩⟩
    · rw [hc] at hs
      cases hs
  | close s =>
    obtain rfl : u.unread = unread := Option.some.inj hread
    exact inBlocks_of_kept hu hc hd fun last taken hs harrived =>
      ⟨taken, by rw [List.append_nil]; exact hs.close, harrived⟩
  | receive s signal =>
    refine inBlocks_of_kept hu hc hd fun last taken hs harrived => ?_
    rw [List.append_nil]
    rcases hs.receive signal with hs' | ⟨rfl, hsame⟩
    · exact ⟨_, hs', arrived_of_read? hread harrived⟩
    · obtain rfl : u.unread = unread := Option.some.inj hread
      exact ⟨taken, by rw [hsame]; exact hs, harrived⟩
  | take s he hlast =>
    obtain rfl : u.unread = unread := Option.some.inj hread
    exact inBlocks_of_kept hu hc hd fun last taken hs harrived =>
      ⟨taken, hs.pop he hlast, harrived⟩
  | last s he =>
    obtain ⟨blocks, last, rfl, hpast, ⟨hnone, -⟩ | ⟨s', taken, hs', hs, harrived⟩⟩ := hu
    · rw [hc] at hnone
      cases hnone
    · rw [hc] at hs'
      obtain rfl : s = s' := Option.some.inj hs'
      rw [goOn_of_given_up g (by rw [hc]; rfl) hd]
      exact ⟨blocks ++ [last ++ [_]], [], by simp,
        List.rel_append hpast (.cons (isBlock_of_last hs he harrived) .nil),
        Or.inl ⟨hd, rfl, rfl, rfl⟩⟩
  | connect url =>
    obtain rfl : u.unread = unread := Option.some.inj hread
    obtain ⟨blocks, last, rfl, hpast, ⟨-, rfl, harrived, hunread⟩ | ⟨s, taken, hs, -⟩⟩ := hu
    · rw [goOn_of_kept g (by rw [hc]; simp)]
      exact ⟨blocks, [], by simp, hpast, Or.inr ⟨_, [], hd,
        Subscription.consumed_start topic url, by rw [harrived, hunread]; rfl⟩⟩
    · rw [hc] at hs
      cases hs

/-! ### The states of the key -/

/-- Whether events are told only while the key streams, from a state on. -/
def StreamsWhenTold : State → List Sight → Prop
  | _, [] => True
  | now, .told _ _ :: rest => now = .streaming ∧ StreamsWhenTold now rest
  | _, .state next :: rest => StreamsWhenTold next rest

theorem stateAfter_append (initial : State) (sights more : List Sight) :
    stateAfter initial (sights ++ more) = stateAfter (stateAfter initial sights) more := by
  simp only [stateAfter, statesOf_append, List.getLastD_eq_getLast?, List.getLast?_append,
    Option.getD_or]

theorem streamsWhenTold_append (now : State) (sights more : List Sight) :
    StreamsWhenTold now (sights ++ more) ↔
      StreamsWhenTold now sights ∧ StreamsWhenTold (stateAfter now sights) more := by
  induction sights generalizing now with
  | nil => simp [StreamsWhenTold, stateAfter, statesOf]
  | cons sight rest ih =>
    cases sight with
    | told topic event =>
      simp only [List.cons_append, StreamsWhenTold, ih, and_assoc]
      rfl
    | state next =>
      simp only [List.cons_append, StreamsWhenTold, ih, stateAfter, statesOf,
        List.filterMap_cons, Sight.state?, List.getLastD_cons]

/-- Where an event is told, the key streams. -/
theorem StreamsWhenTold.streaming {initial : State} {before after : List Sight} {event : Event}
    (h : StreamsWhenTold initial (before ++ .told topic event :: after)) :
    stateAfter initial before = .streaming :=
  ((streamsWhenTold_append _ _ _).mp h).2.1

private theorem streamsWhenTold_map {told : List (Topic × Event)} {now : State}
    (h : told ≠ [] → now = .streaming) :
    StreamsWhenTold now (told.map fun (topic, event) => .told topic event) := by
  induction told with
  | nil => trivial
  | cons first rest ih => exact ⟨h (by simp), ih fun _ => h (by simp)⟩

private theorem statesOf_map_told (told : List (Topic × Event)) :
    statesOf (told.map fun (topic, event) => .told topic event) = [] := by
  induction told with
  | nil => rfl
  | cons first rest ih => exact ih

theorem statesOf_sightsOf (f g : Follower) (actions : List Action) :
    statesOf (sightsOf f g actions) = if g.state = f.state then [] else [g.state] := by
  rw [sightsOf, statesOf_append, statesOf_map_told, List.nil_append]
  split <;> rfl

/-- A step shows the state that it leads to. -/
theorem stateAfter_sightsOf (f g : Follower) (actions : List Action) :
    stateAfter f.state (sightsOf f g actions) = g.state := by
  rw [stateAfter, statesOf_sightsOf]
  split
  · exact Eq.symm ‹_›
  · rfl

/-- What is seen agrees with the state, from an initial one on. -/
structure Tracks (initial : State) (u : Uplink) (sights : List Sight) : Prop where
  stateAfter_eq : stateAfter initial sights = u.follower.state
  isChain : (initial :: statesOf sights).IsChain fun s t => s.movesTo t = true
  streams : StreamsWhenTold initial sights

private theorem tracks_occur {initial : State} {seen : List Sight} (hu : Tracks initial u seen)
    (hsound : u.follower.Sound) (h : machine u (.occur occurrence) = some (v, sights)) :
    Tracks initial v (seen ++ sights) := by
  obtain ⟨unread, g, actions, -, hstep, rfl, rfl⟩ := machine_occur_eq_some.mp h
  have hspec := hsound.step_spec hstep
  refine ⟨?_, ?_, ?_⟩
  · rw [stateAfter_append, hu.stateAfter_eq, stateAfter_sightsOf, follower_goOn]
  · rw [statesOf_append, statesOf_sightsOf]
    split
    · rw [List.append_nil]
      exact hu.isChain
    · rename_i hmoves
      rw [← List.cons_append]
      refine hu.isChain.append (.singleton _) fun s hs t ht => ?_
      rw [List.getLast?_cons, ← List.getLastD_eq_getLast?] at hs
      obtain rfl : u.follower.state = s := hu.stateAfter_eq.symm.trans (Option.some.inj hs)
      obtain rfl : g.state = t := Option.some.inj ht
      exact hspec.state_cases.resolve_left hmoves
  · rw [streamsWhenTold_append, hu.stateAfter_eq, sightsOf, streamsWhenTold_append]
    refine ⟨hu.streams, streamsWhenTold_map hspec.streaming_of_told, ?_⟩
    split <;> trivial

/-! ### Runs -/

/-- What holds of an uplink and of what was seen of its key, after a run. -/
structure Reached (topic : Topic) (initial : State) (u : Uplink) (sights : List Sight) : Prop where
  topic_eq : u.follower.topic = topic
  sound : u.follower.Sound
  inBlocks : InBlocks topic u (callbacks sights)
  tracks : Tracks initial u sights
  topic_of_told : ∀ other event, .told other event ∈ sights → other = topic

theorem reached_start (topic : Topic) (policy : ReconnectPolicy) (url : Option Url) :
    Reached topic (start topic policy url).follower.state (start topic policy url) [] := by
  obtain ⟨hsound, htopic, -, -⟩ := Follower.start_spec topic policy url
  exact ⟨htopic, hsound, inBlocks_start topic policy url, ⟨rfl, .singleton _, trivial⟩, by simp⟩

theorem Reached.step {initial : State} {seen : List Sight} {move : Move}
    (hu : Reached topic initial u seen) (h : machine u move = some (v, sights)) :
    Reached topic initial v (seen ++ sights) := by
  cases move with
  | arrive signal =>
    have hblocks := inBlocks_arrive hu.inBlocks h
    obtain ⟨-, rfl, rfl⟩ := machine_arrive_eq_some.mp h
    rw [List.append_nil]
    rw [callbacks_nil, List.append_nil] at hblocks
    exact ⟨hu.topic_eq, hu.sound, hblocks,
      ⟨hu.tracks.stateAfter_eq, hu.tracks.isChain, hu.tracks.streams⟩, hu.topic_of_told⟩
  | occur occurrence =>
    have hblocks := inBlocks_occur hu.inBlocks hu.sound hu.topic_eq h
    have htracks := tracks_occur hu.tracks hu.sound h
    obtain ⟨unread, g, actions, -, hstep, rfl, rfl⟩ := machine_occur_eq_some.mp h
    have hspec := hu.sound.step_spec hstep
    refine ⟨?_, ?_, by rw [callbacks_append]; exact hblocks, htracks, ?_⟩
    · rw [follower_goOn, hspec.topic_eq, hu.topic_eq]
    · rw [follower_goOn]
      exact hspec.sound
    · intro other event htold
      rcases List.mem_append.mp htold with htold | htold
      · exact hu.topic_of_told other event htold
      · obtain ⟨events, -, hevents⟩ := hspec.change
        have hmem : (other, event) ∈ toldOf actions := by
          rcases List.mem_append.mp htold with htold | hstate
          · simpa using htold
          · split at hstate <;> simp at hstate
        rw [hevents] at hmem
        obtain ⟨_, -, heq⟩ := List.mem_map.mp hmem
        rw [← hu.topic_eq]
        exact (congrArg Prod.fst heq).symm

/-- A step tells one event at most, and only when the pump takes an event. -/
theorem Reached.callbacks_cases {initial : State} {seen : List Sight} {move : Move}
    (hu : Reached topic initial u seen) (h : machine u move = some (v, sights)) :
    callbacks sights = [] ∨ move = .occur .event ∧ ∃ event, callbacks sights = [event] := by
  cases move with
  | arrive signal =>
    obtain ⟨-, -, rfl⟩ := machine_arrive_eq_some.mp h
    exact Or.inl rfl
  | occur occurrence =>
    obtain ⟨unread, g, actions, -, hstep, -, rfl⟩ := machine_occur_eq_some.mp h
    obtain ⟨events, hchange, hevents⟩ := (hu.sound.step_spec hstep).change
    rw [callbacks_sightsOf, hevents, List.map_map]
    change events.map id = [] ∨ _ ∧ ∃ event, events.map id = [event]
    rw [List.map_id]
    generalize u.follower.connection = c at hchange
    generalize g.connection = d at hchange
    cases hchange with
    | take => exact Or.inr ⟨rfl, _, rfl⟩
    | last => exact Or.inr ⟨rfl, _, rfl⟩
    | _ => exact Or.inl rfl

/-- The invariant holds after every run. -/
theorem reached_of_run {policy : ReconnectPolicy} {url : Option Url} {moves : List Move}
    (h : machine.run (start topic policy url) moves = some (u, sights)) :
    Reached topic (start topic policy url).follower.state u sights :=
  Machine.run_induction (motive := fun _ u sights => Reached topic _ u sights)
    (reached_start topic policy url) (fun _ hu hstep => hu.step hstep) h

/-- Every message of finished blocks carries the key of the topic. -/
private theorem topic_of_mem_flatten {blocks : List (List Event)} {past : List (List Signal)}
    {message : Message} (hpast : List.Forall₂ (IsBlock topic.displayKey) past blocks)
    (hm : .message message ∈ blocks.flatten) : message.topic = topic.displayKey := by
  induction hpast with
  | nil => cases hm
  | cons hblock _ ih =>
    rcases List.mem_append.mp hm with hm | hm
    · obtain ⟨messages, reason, rfl, htopics, -, -⟩ := hblock
      exact htopics message (by simpa using hm)
    · exact ih hm

private theorem topic_of_mem_begun {last : List Event} {arrived : List Signal} {message : Message}
    (hlast : IsBegun topic.displayKey arrived last) (hm : .message message ∈ last) :
    message.topic = topic.displayKey := by
  rcases hlast with rfl | ⟨messages, rfl, htopics, -⟩
  · cases hm
  · exact htopics message (by simpa using hm)

/-- What was told falls into the blocks of the past connections and one that is not finished, of
which there is nothing without a connection. -/
theorem Reached.exists_blocks {initial : State} (hu : Reached topic initial u sights) :
    ∃ blocks last, callbacks sights = blocks.flatten ++ last ∧
      List.Forall₂ (IsBlock topic.displayKey) u.past blocks ∧
      IsBegun topic.displayKey u.arrived last ∧
      (u.follower.pump.isDriving = false → last = []) := by
  obtain ⟨blocks, last, htold, hpast, hpresent⟩ := hu.inBlocks
  refine ⟨blocks, last, htold, hpast, ?_, fun hdriving => ?_⟩
  · rcases hpresent with ⟨-, rfl, -⟩ | ⟨s, taken, -, hs, harrived⟩
    · exact Or.inl rfl
    · rcases hs.told_cases with hnil | ⟨messages, hpre, hmessages⟩
      · exact Or.inl hnil
      · rw [harrived]
        exact Or.inr ⟨messages, hmessages, carried_of_prefix (hpre.trans messagesOf_prefix)⟩
  · rcases hpresent with ⟨-, hnil, -⟩ | ⟨s, taken, hs, -⟩
    · exact hnil
    · rw [hu.sound.connection_eq_none hdriving] at hs
      cases hs

/-- Every message told carries the key of the topic. -/
theorem Reached.topic_of_message {initial : State} (hu : Reached topic initial u sights)
    {message : Message} (hm : .message message ∈ callbacks sights) :
    message.topic = topic.displayKey := by
  obtain ⟨blocks, last, htold, hpast, hbegun, -⟩ := hu.exists_blocks
  rw [htold] at hm
  rcases List.mem_append.mp hm with hm | hm
  · exact topic_of_mem_flatten hpast hm
  · exact topic_of_mem_begun hbegun hm

end Uplink

end FeedRelay.Feed
