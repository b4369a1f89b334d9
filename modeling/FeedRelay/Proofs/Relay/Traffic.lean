import FeedRelay.Proofs.Relay.Lane

/-!
# Traffic on a hub

Several feeds share a hub: their pumps broadcast at the same time, while endpoints are registered
and dropped and while receivers take frames from their channels or go away. A run of the traffic
is any order of these steps; its notes say which lane queued which frame where, so the frames on a
channel can be told apart by where they came from.

After any run each lane has given each message that was told one broadcast, whatever the others
did between its steps (`Traffic.Reached.fair`). Wherever a run begins, the frames that waited in a
channel and those that were queued on it since are those that were taken from it and, behind them,
those that wait (`Traffic.accounts_of_run`).
-/

namespace FeedRelay

/-- A hub and the lanes that share it. -/
structure Traffic where
  hub : Hub
  lanes : List Lane

namespace Traffic

/-- What may happen: a feed starts, a lane makes a move, a channel is made, an endpoint with a
channel is registered, the registration of an id ends, or a receiver takes a frame or goes away. -/
inductive Move where
  | launch (topic : Topic) (policy : ReconnectPolicy) (url : Option Url)
  | lane (number : Nat) (move : Lane.Move)
  | openChannel
  | add (e : Endpoint)
  | remove (id : String)
  | take (channel : Nat)
  | hangUp (channel : Nat)

/-- What can be seen: a note of a lane, or a frame that is taken from a channel. -/
inductive Note where
  | lane (number : Nat) (note : Lane.Note)
  | taken (channel : Nat) (frame : Frame)

/-- The note of a lane. -/
def Note.of? (n : Nat) : Note → Option Lane.Note
  | .lane other note => if other = n then some note else none
  | .taken _ _ => none

/-- The frame that is queued on a channel. -/
def Note.queuedOn? (channel : Nat) : Note → Option Frame
  | .lane _ note => note.frameOn? channel
  | .taken _ _ => none

/-- The frame that is taken from a channel. -/
def Note.takenFrom? (channel : Nat) : Note → Option Frame
  | .lane _ _ => none
  | .taken other frame => if other = channel then some frame else none

/-- The notes of a lane among all notes. -/
def notesOf (n : Nat) (notes : List Note) : List Lane.Note :=
  notes.filterMap (Note.of? n)

/-- The frames that were queued on a channel, by any lane. -/
def queuedOn (channel : Nat) (notes : List Note) : List Frame :=
  notes.filterMap (Note.queuedOn? channel)

/-- The frames that were taken from a channel. -/
def takenFrom (channel : Nat) (notes : List Note) : List Frame :=
  notes.filterMap (Note.takenFrom? channel)

/-- The frames that the lanes other than `n` queued on a channel. -/
def queuedByOthers (n channel : Nat) (notes : List Note) : List Frame :=
  queuedOn channel (notes.filter fun note => (note.of? n).isNone)

/-- The endpoint that a move registers. -/
def Move.added? : Move → Option Endpoint
  | .add e => some e
  | _ => none

/-- The endpoints that moves register. -/
def added (moves : List Move) : List Endpoint :=
  moves.filterMap Move.added?

/-- Nobody is there. -/
def start : Traffic :=
  { hub := .empty, lanes := [] }

/-- The machine of the traffic. -/
def machine : Machine Traffic Move Note
  | t, .launch topic policy url =>
    some ({ t with lanes := t.lanes ++ [.start topic policy url] }, [])
  | t, .lane n move =>
    t.lanes[n]?.bind fun lane =>
      (Lane.machine (t.hub, lane) move).map fun ((hub, lane), notes) =>
        ({ hub, lanes := t.lanes.set n lane }, notes.map (.lane n))
  | t, .openChannel =>
    some ({ t with hub := { t.hub with channels := t.hub.channels ++ [⟨true, []⟩] } }, [])
  | t, .add e =>
    if e.channel < t.hub.channels.length then
      some ({ t with hub := { t.hub with registry := t.hub.registry.add e } }, [])
    else none
  | t, .remove id => some ({ t with hub := t.hub.leave id }, [])
  | t, .take channel =>
    match t.hub.channel? channel with
    | some ⟨true, frame :: rest⟩ =>
      some ({ t with hub := t.hub.modifyChannel channel fun c => { c with queue := rest } },
        [.taken channel frame])
    | _ => none
  | t, .hangUp channel => some ({ t with hub := t.hub.hangUp channel }, [])

end Traffic

/-! ### What goes through the channels -/

/-- The frames that wait in a channel, if there is one with that number. -/
def Hub.waitingIn (hub : Hub) (number : Nat) : List Frame :=
  (hub.channel? number).elim [] (·.queue)

/-- All frames queued on each channel so far and all taken from it: what is queued comes out in
order, and what has not come out waits while there is a receiver. -/
structure Hub.Accounts (hub : Hub) (queued taken : Nat → List Frame) : Prop where
  waiting : ∀ c channel, hub.channel? c = some channel → channel.receiving = true →
    queued c = taken c ++ channel.queue
  begins : ∀ c, taken c <+: queued c
  fresh : ∀ c, hub.channel? c = none → queued c = [] ∧ taken c = []

namespace Hub.Accounts

variable {hub hub' : Hub} {queued taken : Nat → List Frame}

/-- An account may begin with what waits. -/
theorem begin (hub : Hub) : hub.Accounts hub.waitingIn fun _ => [] where
  waiting c channel hc _ := by rw [waitingIn, hc]; rfl
  begins c := List.nil_prefix
  fresh c hc := ⟨by rw [waitingIn, hc]; rfl, rfl⟩

theorem channel?_modifyChannel (hub : Hub) (n c : Nat) (f : Channel → Channel) :
    (hub.modifyChannel n f).channel? c =
      if n = c then (hub.channel? c).map f else hub.channel? c := by
  rw [channel?, modifyChannel, List.getElem?_modify, channel?]
  split
  · rfl
  · cases hub.channels[c]? <;> rfl

theorem of_channels_eq (h : hub.Accounts queued taken) (heq : hub'.channels = hub.channels) :
    hub'.Accounts queued taken := by
  have hchannel (c : Nat) : hub'.channel? c = hub.channel? c := by
    rw [channel?, channel?, heq]
  refine ⟨?_, h.begins, ?_⟩
  · intro c channel hc
    exact h.waiting c channel (hchannel c ▸ hc)
  · intro c hc
    exact h.fresh c (hchannel c ▸ hc)

/-- A frame that is queued for an endpoint whose receiver is there waits in its channel. -/
theorem push (h : hub.Accounts queued taken) {e : Endpoint} (halive : hub.isConnected e = true)
    (frame : Frame) :
    (hub.push e.channel frame).Accounts
      (fun c => queued c ++ if e.channel = c then [frame] else []) taken := by
  refine ⟨?_, fun c => (h.begins c).trans (List.prefix_append _ _), ?_⟩
  · intro c channel hc hreceiving
    rw [Hub.push, channel?_modifyChannel] at hc
    by_cases heq : e.channel = c
    · rw [if_pos heq] at hc ⊢
      obtain ⟨old, hold, rfl⟩ := Option.map_eq_some_iff.mp hc
      rw [h.waiting c old hold hreceiving, List.append_assoc]
    · rw [if_neg heq] at hc ⊢
      rw [List.append_nil]
      exact h.waiting c channel hc hreceiving
  · intro c hc
    rw [Hub.push, channel?_modifyChannel] at hc
    by_cases heq : e.channel = c
    · rw [if_pos heq, Option.map_eq_none_iff] at hc
      rw [isConnected, heq, hc] at halive
      cases halive
    · rw [if_neg heq] at hc ⊢
      rw [List.append_nil]
      exact h.fresh c hc

theorem openChannel (h : hub.Accounts queued taken) :
    ({ hub with channels := hub.channels ++ [⟨true, []⟩] } : Hub).Accounts queued taken := by
  refine ⟨?_, h.begins, ?_⟩
  · intro c channel hc hreceiving
    rcases getElem?_concat_eq_some.mp hc with hc | ⟨rfl, rfl⟩
    · exact h.waiting c channel hc hreceiving
    · obtain ⟨hqueued, htaken⟩ := h.fresh _ (List.getElem?_eq_none (Nat.le_refl _))
      rw [hqueued, htaken]
      rfl
  · intro c hc
    exact h.fresh c (getElem?_eq_none_of_concat hc)

/-- The frame that has waited for longest is taken. -/
theorem take (h : hub.Accounts queued taken) {n : Nat} {frame : Frame} {rest : List Frame}
    (hn : hub.channel? n = some ⟨true, frame :: rest⟩) :
    (hub.modifyChannel n fun c => { c with queue := rest }).Accounts queued
      (fun c => taken c ++ if n = c then [frame] else []) := by
  have hqueued := h.waiting n _ hn rfl
  refine ⟨?_, ?_, ?_⟩
  · intro c channel hc hreceiving
    rw [channel?_modifyChannel] at hc
    by_cases heq : n = c
    · subst heq
      rw [if_pos rfl] at hc ⊢
      rw [hn] at hc
      cases hc
      rw [hqueued, List.append_assoc]
      rfl
    · rw [if_neg heq] at hc ⊢
      rw [List.append_nil]
      exact h.waiting c channel hc hreceiving
  · intro c
    by_cases heq : n = c
    · subst heq
      rw [if_pos rfl, hqueued, List.prefix_append_right_inj]
      exact ⟨rest, rfl⟩
    · rw [if_neg heq, List.append_nil]
      exact h.begins c
  · intro c hc
    rw [channel?_modifyChannel] at hc
    by_cases heq : n = c
    · subst heq
      rw [if_pos rfl, hn] at hc
      cases hc
    · rw [if_neg heq] at hc ⊢
      rw [List.append_nil]
      exact h.fresh c hc

theorem hangUp (h : hub.Accounts queued taken) (n : Nat) :
    (hub.hangUp n).Accounts queued taken := by
  refine ⟨?_, h.begins, ?_⟩
  · intro c channel hc hreceiving
    rw [Hub.hangUp, channel?_modifyChannel] at hc
    by_cases heq : n = c
    · rw [if_pos heq] at hc
      obtain ⟨old, -, rfl⟩ := Option.map_eq_some_iff.mp hc
      cases hreceiving
    · rw [if_neg heq] at hc
      exact h.waiting c channel hc hreceiving
  · intro c hc
    rw [Hub.hangUp, channel?_modifyChannel] at hc
    by_cases heq : n = c
    · rw [if_pos heq, Option.map_eq_none_iff] at hc
      exact h.fresh c hc
    · rw [if_neg heq] at hc
      exact h.fresh c hc

end Hub.Accounts

namespace Traffic

variable {t t' : Traffic} {notes more : List Note} {moves : List Move} {move : Move} {n : Nat}

@[simp] theorem notesOf_append (n : Nat) (notes more : List Note) :
    notesOf n (notes ++ more) = notesOf n notes ++ notesOf n more :=
  List.filterMap_append

@[simp] theorem queuedOn_append (channel : Nat) (notes more : List Note) :
    queuedOn channel (notes ++ more) = queuedOn channel notes ++ queuedOn channel more :=
  List.filterMap_append

@[simp] theorem takenFrom_append (channel : Nat) (notes more : List Note) :
    takenFrom channel (notes ++ more) = takenFrom channel notes ++ takenFrom channel more :=
  List.filterMap_append

@[simp] theorem added_append (moves more : List Move) :
    added (moves ++ more) = added moves ++ added more :=
  List.filterMap_append

theorem notesOf_map_lane (m n : Nat) (notes : List Lane.Note) :
    notesOf m (notes.map (.lane n)) = if n = m then notes else [] := by
  rw [notesOf, List.filterMap_map]
  by_cases h : n = m
  · rw [if_pos h]
    have hsome : Note.of? m ∘ Note.lane n = some := funext fun note => if_pos h
    rw [hsome, List.filterMap_some]
  · rw [if_neg h]
    have hnone : Note.of? m ∘ Note.lane n = fun _ => none := funext fun note => if_neg h
    rw [hnone, List.filterMap_none]

theorem queuedOn_map_lane (channel n : Nat) (notes : List Lane.Note) :
    queuedOn channel (notes.map (.lane n)) = Lane.framesOn channel notes := by
  rw [queuedOn, List.filterMap_map]
  rfl

theorem takenFrom_map_lane (channel n : Nat) (notes : List Lane.Note) :
    takenFrom channel (notes.map (.lane n)) = [] := by
  rw [takenFrom, List.filterMap_map]
  exact List.filterMap_none ..

theorem takenFrom_taken (channel other : Nat) (frame : Frame) :
    takenFrom channel [.taken other frame] = if other = channel then [frame] else [] := by
  rw [takenFrom, List.filterMap_cons, Note.takenFrom?]
  by_cases h : other = channel <;> simp [h]

theorem machine_lane_eq_some {lane : Lane.Move} :
    machine t (.lane n lane) = some (t', more) ↔
      ∃ old hub new notes, t.lanes[n]? = some old ∧
        Lane.machine (t.hub, old) lane = some ((hub, new), notes) ∧
        t' = { hub, lanes := t.lanes.set n new } ∧ more = notes.map (.lane n) := by
  simp only [machine, Option.bind_eq_some_iff, Option.map_eq_some_iff, Prod.exists,
    Prod.mk.injEq]
  constructor
  · rintro ⟨old, hold, hub, new, notes, hstep, rfl, rfl⟩
    exact ⟨old, hub, new, notes, hold, hstep, rfl, rfl⟩
  · rintro ⟨old, hub, new, notes, hold, hstep, rfl, rfl⟩
    exact ⟨old, hold, hub, new, notes, hstep, rfl, rfl⟩

/-- What was queued on a channel was queued by one lane or by the others. -/
theorem queuedOn_perm (n channel : Nat) (notes : List Note) :
    (queuedOn channel notes).Perm
      (Lane.framesOn channel (notesOf n notes) ++ queuedByOthers n channel notes) := by
  induction notes with
  | nil => exact .refl _
  | cons note rest ih =>
    cases note with
    | taken other frame => exact ih
    | lane m note =>
      have hqueued : queuedOn channel (.lane m note :: rest) =
          (note.frameOn? channel).toList ++ queuedOn channel rest := by
        cases h : note.frameOn? channel <;> simp [queuedOn, Note.queuedOn?, h]
      by_cases hm : m = n
      · have hown : notesOf n (.lane m note :: rest) = note :: notesOf n rest := by
          simp [notesOf, Note.of?, hm]
        have hframes : Lane.framesOn channel (note :: notesOf n rest) =
            (note.frameOn? channel).toList ++ Lane.framesOn channel (notesOf n rest) := by
          cases h : note.frameOn? channel <;> simp [Lane.framesOn, h]
        have hothers : queuedByOthers n channel (.lane m note :: rest) =
            queuedByOthers n channel rest := by
          simp [queuedByOthers, Note.of?, hm]
        rw [hqueued, hown, hframes, hothers, List.append_assoc]
        exact ih.append_left _
      · have hown : notesOf n (.lane m note :: rest) = notesOf n rest := by
          simp [notesOf, Note.of?, hm]
        have hothers : queuedByOthers n channel (.lane m note :: rest) =
            (note.frameOn? channel).toList ++ queuedByOthers n channel rest := by
          cases h : note.frameOn? channel <;>
            simp [queuedByOthers, queuedOn, Note.of?, Note.queuedOn?, hm, h]
        rw [hqueued, hown, hothers]
        exact (ih.append_left _).trans (List.perm_append_comm_assoc _ _ _)

/-- A lane was there before a move, or the move starts it, or it is a move of that lane. -/
theorem lane_of_machine {lane : Lane} (h : machine t move = some (t', more))
    (hlane : t'.lanes[n]? = some lane) :
    t.lanes[n]? = some lane ∨ (∃ topic policy url, lane = .start topic policy url) ∨
      ∃ old own hub notes, move = .lane n own ∧ t.lanes[n]? = some old ∧
        Lane.machine (t.hub, old) own = some ((hub, lane), notes) := by
  cases move with
  | launch topic policy url =>
    cases h
    rcases getElem?_concat_eq_some.mp hlane with hlane | ⟨-, rfl⟩
    · exact Or.inl hlane
    · exact Or.inr (Or.inl ⟨topic, policy, url, rfl⟩)
  | lane m own =>
    obtain ⟨old, hub, new, notes, hold, hstep, rfl, rfl⟩ := machine_lane_eq_some.mp h
    rcases getElem?_set_eq_some hlane with ⟨rfl, rfl⟩ | ⟨-, hlane⟩
    · exact Or.inr (Or.inr ⟨old, own, hub, notes, rfl, hold, hstep⟩)
    · exact Or.inl hlane
  | add e =>
    obtain ⟨-, heq⟩ := Option.ite_none_right_eq_some.mp h
    cases heq
    exact Or.inl hlane
  | take channel =>
    simp only [machine] at h
    split at h
    · cases h
      exact Or.inl hlane
    · cases h
  | _ =>
    cases h
    exact Or.inl hlane

/-- What a move queues on a channel and takes from it goes into the account. -/
theorem accounts_of_machine {queued taken : Nat → List Frame} (h : t.hub.Accounts queued taken)
    (hstep : machine t move = some (t', more)) :
    t'.hub.Accounts (fun c => queued c ++ queuedOn c more)
      fun c => taken c ++ takenFrom c more := by
  have hsilent {hub : Hub} (h : hub.Accounts queued taken) :
      hub.Accounts (fun c => queued c ++ queuedOn c []) fun c => taken c ++ takenFrom c [] := by
    have hqueued : (fun c => queued c ++ queuedOn c []) = queued :=
      funext fun c => List.append_nil _
    have htaken : (fun c => taken c ++ takenFrom c []) = taken :=
      funext fun c => List.append_nil _
    rw [hqueued, htaken]
    exact h
  cases move with
  | launch topic policy url =>
    cases hstep
    exact hsilent h
  | lane n own =>
    obtain ⟨old, hub, new, seen, -, hlane, rfl, rfl⟩ := machine_lane_eq_some.mp hstep
    simp only [queuedOn_map_lane, takenFrom_map_lane, List.append_nil]
    rcases Lane.channels_of_machine hlane with ⟨hchannels, hframes⟩ | ⟨e, frame, halive, rfl, rfl⟩
    · simp only [hframes, List.append_nil]
      exact h.of_channels_eq hchannels
    · simp only [Lane.framesOn_queued]
      exact h.push halive frame
  | openChannel =>
    cases hstep
    exact hsilent h.openChannel
  | add e =>
    obtain ⟨-, heq⟩ := Option.ite_none_right_eq_some.mp hstep
    cases heq
    exact hsilent (h.of_channels_eq rfl)
  | remove id =>
    cases hstep
    exact hsilent (h.of_channels_eq rfl)
  | take channel =>
    simp only [machine] at hstep
    split at hstep
    · rename_i frame rest hchannel
      cases hstep
      have hqueued (c : Nat) : queuedOn c [.taken channel frame] = [] := rfl
      simp only [hqueued, takenFrom_taken, List.append_nil]
      exact h.take hchannel
    · cases hstep
  | hangUp channel =>
    cases hstep
    exact hsilent (h.hangUp channel)

/-- What waited when a run began, with what was queued since, is what was taken and what waits. -/
theorem accounts_of_run (h : machine.run t moves = some (t', notes)) :
    t'.hub.Accounts (fun c => t.hub.waitingIn c ++ queuedOn c notes) (takenFrom · notes) := by
  refine Machine.run_induction (motive := fun _ t' notes =>
    t'.hub.Accounts (fun c => t.hub.waitingIn c ++ queuedOn c notes) (takenFrom · notes)) ?_ ?_ h
  · have hqueued : (fun c => t.hub.waitingIn c ++ queuedOn c []) = t.hub.waitingIn :=
      funext fun c => List.append_nil _
    rw [hqueued]
    exact .begin t.hub
  · intro _ _ _ _ _ _ _ haccounts hstep
    simp only [queuedOn_append, takenFrom_append, ← List.append_assoc]
    exact accounts_of_machine haccounts hstep

/-- What holds of the traffic after a run: the endpoints of the registry were registered, every
lane is fair, and what was queued on the channels is accounted for. -/
structure Reached (moves : List Move) (t : Traffic) (notes : List Note) : Prop where
  sorted : t.hub.registry.Sorted
  known : ∀ e ∈ t.hub.registry.snapshot, e ∈ added moves
  fair : ∀ (n : Nat) (lane : Lane), t.lanes[n]? = some lane →
    ∃ topic initial, lane.Fair topic initial (added moves) (notesOf n notes)
  quiet : ∀ n : Nat, t.lanes[n]? = none → notesOf n notes = []
  accounts : t.hub.Accounts (queuedOn · notes) (takenFrom · notes)

theorem reached_start : Reached [] start [] where
  sorted := Registry.sorted_empty
  known e he := by cases he
  fair n lane h := by cases h
  quiet n _ := rfl
  accounts := ⟨fun c channel hc => (by cases hc), fun c => List.prefix_rfl, fun c _ => ⟨rfl, rfl⟩⟩

namespace Reached

theorem known_mono (h : Reached moves t notes) (later : List Move) :
    ∀ e ∈ t.hub.registry.snapshot, e ∈ added (moves ++ later) := by
  intro e he
  rw [added_append]
  exact List.mem_append_left _ (h.known e he)

/-- A lane that makes no move stays fair. -/
private theorem fair_mono (h : Reached moves t notes) {lane : Lane}
    (hlane : t.lanes[n]? = some lane) (later : List Move) (hmore : notesOf n more = []) :
    ∃ topic initial,
      lane.Fair topic initial (added (moves ++ later)) (notesOf n (notes ++ more)) := by
  obtain ⟨topic, initial, hfair⟩ := h.fair n lane hlane
  rw [notesOf_append, hmore, List.append_nil, added_append]
  exact ⟨topic, initial, hfair.mono fun e he => List.mem_append_left _ he⟩

/-- A step that makes no move of a lane. -/
private theorem hubStep (h : Reached moves t notes) (later : List Move) {hub : Hub}
    (hsorted : hub.registry.Sorted)
    (hknown : ∀ e ∈ hub.registry.snapshot, e ∈ added (moves ++ later))
    (hmore : ∀ n, notesOf n more = [])
    (haccounts : hub.Accounts (queuedOn · (notes ++ more)) (takenFrom · (notes ++ more))) :
    Reached (moves ++ later) { t with hub } (notes ++ more) where
  sorted := hsorted
  known := hknown
  fair n lane hlane := h.fair_mono hlane later (hmore n)
  quiet n hn := by rw [notesOf_append, hmore, h.quiet n hn]; rfl
  accounts := haccounts

/-- A feed starts: nothing was noted of its lane. -/
private theorem launch (h : Reached moves t notes) (topic : Topic) (policy : ReconnectPolicy)
    (url : Option Url) (later : List Move) :
    Reached (moves ++ later) { t with lanes := t.lanes ++ [.start topic policy url] } notes where
  sorted := h.sorted
  known := h.known_mono later
  fair n lane hlane := by
    rcases getElem?_concat_eq_some.mp hlane with hlane | ⟨rfl, rfl⟩
    · have hfair := h.fair_mono hlane later (rfl : notesOf n [] = [])
      rwa [List.append_nil] at hfair
    · rw [h.quiet _ (List.getElem?_eq_none (Nat.le_refl _))]
      exact ⟨topic, _, .start topic policy url _⟩
  quiet n hn := h.quiet n (getElem?_eq_none_of_concat hn)
  accounts := h.accounts

/-- A lane makes a move: it stays fair, and so do the others. -/
private theorem laneStep (h : Reached moves t notes) {old new : Lane} {hub : Hub}
    {own : Lane.Move} {seen : List Lane.Note} (hold : t.lanes[n]? = some old)
    (hlane : Lane.machine (t.hub, old) own = some ((hub, new), seen)) (later : List Move)
    (haccounts : hub.Accounts (queuedOn · (notes ++ seen.map (.lane n)))
      (takenFrom · (notes ++ seen.map (.lane n)))) :
    Reached (moves ++ later) { hub, lanes := t.lanes.set n new }
      (notes ++ seen.map (.lane n)) where
  sorted := (Lane.registry_of_machine hlane).1 h.sorted
  known e he := h.known_mono later e ((Lane.registry_of_machine hlane).2 e he)
  fair m lane hm := by
    rcases getElem?_set_eq_some hm with ⟨rfl, rfl⟩ | ⟨hnm, hm⟩
    · obtain ⟨topic, initial, hfair⟩ := h.fair n old hold
      have hmono : old.Fair topic initial (added (moves ++ later)) (notesOf n notes) := by
        rw [added_append]
        exact hfair.mono fun e he => List.mem_append_left _ he
      rw [notesOf_append, notesOf_map_lane, if_pos rfl]
      exact ⟨topic, initial, hmono.step h.sorted (h.known_mono later) hlane⟩
    · exact h.fair_mono hm later (by rw [notesOf_map_lane, if_neg hnm])
  quiet m hm := by
    rw [List.getElem?_eq_none_iff, List.length_set, ← List.getElem?_eq_none_iff] at hm
    have hnm : n ≠ m := by
      rintro rfl
      rw [hold] at hm
      cases hm
    rw [notesOf_append, notesOf_map_lane, if_neg hnm, h.quiet m hm]
    rfl
  accounts := haccounts

theorem step (h : Reached moves t notes) (hstep : machine t move = some (t', more)) :
    Reached (moves ++ [move]) t' (notes ++ more) := by
  have haccounts : t'.hub.Accounts (queuedOn · (notes ++ more)) (takenFrom · (notes ++ more)) := by
    simp only [queuedOn_append, takenFrom_append]
    exact accounts_of_machine h.accounts hstep
  cases move with
  | launch topic policy url =>
    cases hstep
    rw [List.append_nil]
    exact h.launch topic policy url _
  | lane n move =>
    obtain ⟨old, hub, new, seen, hold, hlane, rfl, rfl⟩ := machine_lane_eq_some.mp hstep
    exact h.laneStep hold hlane _ haccounts
  | openChannel =>
    cases hstep
    exact h.hubStep _ h.sorted (h.known_mono _) (fun n => rfl) haccounts
  | add e =>
    obtain ⟨-, heq⟩ := Option.ite_none_right_eq_some.mp hstep
    cases heq
    refine h.hubStep _ (h.sorted.add e) (fun f hf => ?_) (fun n => rfl) haccounts
    rcases Registry.mem_snapshot_add hf with rfl | hf
    · rw [added_append]
      exact List.mem_append_right _ List.mem_cons_self
    · exact h.known_mono _ f hf
  | remove id =>
    cases hstep
    refine h.hubStep _ (h.sorted.remove id) (fun e he => ?_) (fun n => rfl) haccounts
    exact h.known_mono _ e (Registry.mem_snapshot_remove he)
  | take channel =>
    simp only [machine] at hstep
    split at hstep
    · cases hstep
      exact h.hubStep _ h.sorted (h.known_mono _) (fun n => rfl) haccounts
    · cases hstep
  | hangUp channel =>
    cases hstep
    exact h.hubStep _ h.sorted (h.known_mono _) (fun n => rfl) haccounts

end Reached

theorem reached_of_run (h : machine.run start moves = some (t, notes)) : Reached moves t notes :=
  Machine.run_induction reached_start (fun _ hreached hstep => hreached.step hstep) h

end Traffic

end FeedRelay
