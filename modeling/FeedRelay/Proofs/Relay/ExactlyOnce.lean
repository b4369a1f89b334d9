import FeedRelay.Proofs.Relay.Traffic

/-!
# Every frame is queued exactly once

The traces that a broadcast leaves are those of states that the run went through: its snapshot is
what the registry held when it looked (`Traffic.Looked`), and whether an endpoint took its frame
is whether the receiver was there when the frame was offered (`Traffic.Offered`).

So a frame is queued for an endpoint once if the endpoint was in the snapshot of its broadcast and
its receiver was there when its turn came, and not otherwise; what comes from one feed stays in
order and is as it arrived, and nothing else is queued (`Traffic.queued_exactly_once`).
-/

namespace FeedRelay.Traffic

variable {moves later : List Move} {move : Move} {n : Nat} {d d' : Delivery} {e : Endpoint}
  {alive : Bool} {t t' : Traffic} {notes more : List Note}

/-- The broadcast `d` of lane `n` took what the registry held at some moment of the run, when the
handler had been called with its message, as its snapshot, in some order. -/
def Looked (moves : List Move) (n : Nat) (d : Delivery) : Prop :=
  ∃ before after t notes lane, moves = before ++ .lane n (.look d.snapshot) :: after ∧
    machine.run start before = some (t, notes) ∧ t.lanes[n]? = some lane ∧
    lane.stage = .called d.message ∧ d.snapshot.Perm t.hub.registry.snapshot

/-- The broadcast `d` of lane `n` offered its frame to `e` at some moment of the run, when it had
made the offers before this one, and then `alive` says whether the receiver was there. -/
def Offered (moves : List Move) (n : Nat) (d : Delivery) (e : Endpoint) (alive : Bool) : Prop :=
  ∃ before after t notes lane earlier left, moves = before ++ .lane n .offer :: after ∧
    machine.run start before = some (t, notes) ∧ t.lanes[n]? = some lane ∧
    lane.stage = .serving earlier (e :: left) ∧ earlier.message = d.message ∧
    earlier.snapshot = d.snapshot ∧ earlier.offers ++ [(e, alive)] <+: d.offers ∧
    t.hub.isConnected e = alive

theorem Looked.mono (h : Looked moves n d) (later : List Move) : Looked (moves ++ later) n d := by
  obtain ⟨before, after, t, notes, lane, rfl, hrest⟩ := h
  exact ⟨before, after ++ later, t, notes, lane, by simp, hrest⟩

theorem Offered.mono (h : Offered moves n d e alive) (later : List Move) :
    Offered (moves ++ later) n d e alive := by
  obtain ⟨before, after, t, notes, lane, earlier, left, rfl, hrest⟩ := h
  exact ⟨before, after ++ later, t, notes, lane, earlier, left, by simp, hrest⟩

/-- What a broadcast offered before it went on, it has offered. -/
theorem Offered.offered (h : Offered moves n d e alive) (f : Endpoint) (other : Bool) :
    Offered moves n (d.offered f other) e alive := by
  obtain ⟨before, after, t, notes, lane, earlier, left, hmoves, hrun, hlane, hstage, hmessage,
    hsnapshot, hoffers, halive⟩ := h
  exact ⟨before, after, t, notes, lane, earlier, left, hmoves, hrun, hlane, hstage, hmessage,
    hsnapshot, hoffers.trans (List.prefix_append _ _), halive⟩

/-- All that the broadcasts of the lanes have recorded is what the run went through. -/
def Recorded (moves : List Move) (t : Traffic) : Prop :=
  ∀ (n : Nat) (lane : Lane), t.lanes[n]? = some lane → ∀ d ∈ lane.deliveries,
    Looked moves n d ∧ ∀ offer ∈ d.offers, Offered moves n d offer.1 offer.2

private theorem Recorded.step (h : Recorded moves t)
    (hrun : machine.run start moves = some (t, notes))
    (hstep : machine t move = some (t', more)) : Recorded (moves ++ [move]) t' := by
  intro n lane hlane d hd
  have hkeep {old : Lane} {d : Delivery} (hold : t.lanes[n]? = some old)
      (hd : d ∈ old.deliveries) : Looked (moves ++ [move]) n d ∧
        ∀ offer ∈ d.offers, Offered (moves ++ [move]) n d offer.1 offer.2 := by
    obtain ⟨hlooked, hoffered⟩ := h n old hold d hd
    exact ⟨hlooked.mono _, fun offer hoffer => (hoffered offer hoffer).mono _⟩
  rcases lane_of_machine hstep hlane with hold | ⟨topic, policy, url, rfl⟩ |
    ⟨old, own, hub, notes', rfl, hold, hown⟩
  · exact hkeep hold hd
  · cases hd
  · rcases Lane.mem_deliveries_of_machine hown hd with hd | ⟨rfl, hstage, hsnapshot, hoffers⟩ |
      ⟨d', e, left, rfl, hstage, rfl⟩
    · exact hkeep hold hd
    · refine ⟨⟨moves, [], t, notes, old, rfl, hrun, hold, hstage, hsnapshot⟩, ?_⟩
      rw [hoffers]
      intro offer hoffer
      cases hoffer
    · -- The broadcast goes on: its earlier offers stand, and the last one is made now.
      have hd' : d' ∈ old.deliveries :=
        List.mem_append_right _ (by rw [hstage]; exact List.mem_singleton_self d')
      obtain ⟨hlooked, hoffered⟩ := hkeep hold hd'
      refine ⟨hlooked, fun offer hoffer => ?_⟩
      rcases List.mem_append.mp hoffer with hoffer | hoffer
      · exact (hoffered offer hoffer).offered e _
      · obtain rfl := List.mem_singleton.mp hoffer
        exact ⟨moves, [], t, notes, old, d', left, rfl, hrun, hold, hstage, rfl, rfl,
          List.prefix_rfl, rfl⟩

theorem recorded_of_run (h : machine.run start moves = some (t, notes)) : Recorded moves t :=
  Machine.run_induction (motive := fun moves t _ => Recorded moves t)
    (fun n lane hlane => by cases hlane) (fun hrun hrecorded hstep => hrecorded.step hrun hstep) h

/-- A frame that was queued belongs to a broadcast of its lane that reached an endpoint of the
channel. -/
private theorem Reached.exists_delivery (h : Reached moves t notes) {channel : Nat} {frame : Frame}
    (hqueued : .lane n (.queued channel frame) ∈ notes) :
    ∃ lane d e, t.lanes[n]? = some lane ∧ d ∈ lane.deliveries ∧ e ∈ added moves ∧
      e.channel = channel ∧ d.reached e = true ∧ d.frame = frame := by
  have hown : Lane.Note.queued channel frame ∈ notesOf n notes :=
    List.mem_filterMap.mpr ⟨_, hqueued, if_pos rfl⟩
  cases hlane : t.lanes[n]? with
  | none =>
    rw [h.quiet n hlane] at hown
    cases hown
  | some lane =>
    obtain ⟨topic, initial, hfair⟩ := h.fair n lane hlane
    have hframe : frame ∈ Lane.framesOn channel (notesOf n notes) :=
      List.mem_filterMap.mpr ⟨_, hown, if_pos rfl⟩
    rw [hfair.framesOn_eq, List.mem_flatMap] at hframe
    obtain ⟨d, hd, hframe⟩ := hframe
    obtain ⟨⟨e, alive⟩, hoffer, hframe⟩ := List.mem_filterMap.mp hframe
    obtain ⟨⟨halive, hchannel⟩, heq⟩ := Option.ite_none_right_eq_some.mp hframe
    have hsnapshot : e ∈ d.snapshot :=
      (hfair.offers_prefix hd).subset (List.mem_map.mpr ⟨_, hoffer, rfl⟩)
    refine ⟨lane, d, e, rfl, hd, hfair.known d hd e hsnapshot, hchannel, ?_, Option.some.inj heq⟩
    rw [Delivery.reached, decide_eq_true_iff, ← halive]
    exact hoffer

/-- **Exactly once, in order and verbatim.** After every run of the traffic on a hub whose endpoints
have channels of their own, the broadcasts of each lane are of the first data frames that arrived
on each of its connections, in order and as they were. A broadcast goes through the endpoints that
were registered when it looked, in some order and none twice, and what the lane has queued for an
endpoint is the frame of each broadcast that offered it while the receiver was there, in the order
of the broadcasts. Every frame
that was queued is one of these, and the frames that were queued on a channel are those that were
taken from it and, behind them, those that wait. -/
theorem queued_exactly_once (h : machine.run start moves = some (t, notes))
    (hown : ∀ e ∈ added moves, ∀ f ∈ added moves, f.channel = e.channel → f = e) :
    (∀ (n : Nat) (lane : Lane), t.lanes[n]? = some lane →
      (∃ parts, lane.deliveries.map Delivery.frame ++
          lane.stage.called?.toList.map Message.toFrame = parts.flatten ∧
        List.Forall₂ (fun part arrived => part <+: Feed.dataOf arrived) parts
          (lane.uplink.past ++ [lane.uplink.arrived])) ∧
      (∀ d ∈ lane.deliveries, Looked moves n d ∧ d.snapshot.Nodup ∧
        d.offers.map (·.1) <+: d.snapshot ∧
        ∀ offer ∈ d.offers, Offered moves n d offer.1 offer.2) ∧
      (∀ d ∈ lane.finished, d.offers.map (·.1) = d.snapshot) ∧
      ∀ e ∈ added moves, Lane.framesOn e.channel (notesOf n notes) =
        (lane.deliveries.filter (·.reached e)).map Delivery.frame) ∧
    (∀ (n channel : Nat) (frame : Frame), .lane n (.queued channel frame) ∈ notes →
      ∃ lane d e, t.lanes[n]? = some lane ∧ d ∈ lane.deliveries ∧ e ∈ added moves ∧
        e.channel = channel ∧ d.reached e = true ∧ d.frame = frame) ∧
    ∀ (c : Nat) (channel : Channel), t.hub.channel? c = some channel →
      channel.receiving = true → queuedOn c notes = takenFrom c notes ++ channel.queue := by
  have hreached := reached_of_run h
  have hrecorded := recorded_of_run h
  refine ⟨fun n lane hlane => ?_, fun n channel frame hqueued => hreached.exists_delivery hqueued,
    hreached.accounts.waiting⟩
  obtain ⟨topic, initial, hfair⟩ := hreached.fair n lane hlane
  refine ⟨hfair.exists_parts, fun d hd => ?_, hfair.offers_eq, fun e he => ?_⟩
  · obtain ⟨hlooked, hoffered⟩ := hrecorded n lane hlane d hd
    exact ⟨hlooked, hfair.nodup d hd, hfair.offers_prefix hd, hoffered⟩
  · exact hfair.framesOn_own (hown e he)

/-- What may happen to a frame for two endpoints, of which the first in the order of the walk goes
away before its turn. -/
def departure : List Move :=
  [.openChannel, .openChannel, .add ⟨"x", 0⟩, .add ⟨"y", 1⟩,
    .launch ⟨"a", none, none, []⟩ (.exponential (.ofMilliseconds 500) (.ofMilliseconds 8000))
      (some Topic.belowSlashed),
    .lane 0 (.feed (.arrive (.frame (.binary [1])))), .lane 0 (.feed (.arrive (.frame (.ping [])))),
    .lane 0 (.feed (.occur .event)),
    .lane 0 (.feed (.occur (.signal (.frame (.binary [1]))))),
    .lane 0 (.feed (.occur .event)), .lane 0 (.look [⟨"y", 1⟩, ⟨"x", 0⟩]), .hangUp 1,
    .lane 0 .offer, .lane 0 .evict, .lane 0 .offer, .lane 0 .finish, .take 0]

/-- A frame is queued for the endpoint that stays, once, and not for the one that has gone. -/
theorem queuedOn_of_departure :
    ∃ t notes, machine.run start departure = some (t, notes) ∧
      queuedOn 0 notes = [.binary [1]] ∧ queuedOn 1 notes = [] ∧
      (∀ lane, t.lanes[0]? = some lane → Lane.framesOn 0 (notesOf 0 notes) =
        (lane.deliveries.filter (·.reached ⟨"x", 0⟩)).map Delivery.frame) ∧
      ∀ channel, t.hub.channel? 0 = some channel → channel.receiving = true →
        [.binary [1]] = takenFrom 0 notes ++ channel.queue := by
  have hrun : (machine.run start departure).map
      (fun result => (queuedOn 0 result.2, queuedOn 1 result.2)) = some ([.binary [1]], []) := by
    decide +kernel
  obtain ⟨⟨t, notes⟩, hrun, hqueued⟩ := Option.map_eq_some_iff.mp hrun
  obtain ⟨hfirst, hsecond⟩ := Prod.mk.inj hqueued
  have hown : ∀ e ∈ added departure, ∀ f ∈ added departure, f.channel = e.channel → f = e := by
    decide +kernel
  obtain ⟨hlanes, -, hwaiting⟩ := queued_exactly_once hrun hown
  refine ⟨t, notes, hrun, hfirst, hsecond, fun lane hlane => ?_, fun channel hchannel hthere => ?_⟩
  · obtain ⟨-, -, -, hframes⟩ := hlanes 0 lane hlane
    exact hframes ⟨"x", 0⟩ (by decide)
  · rw [← hfirst]
    exact hwaiting 0 channel hchannel hthere

end FeedRelay.Traffic
