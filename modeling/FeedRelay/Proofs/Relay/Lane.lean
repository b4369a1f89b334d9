import Mathlib.Data.List.Forall2
import FeedRelay.Proofs.Feed.Uplink
import FeedRelay.Proofs.Relay.Members
import FeedRelay.Relay.Broadcast

/-!
# The broadcasts of a feed

A lane is a feed whose handler broadcasts its messages. A broadcast takes several steps: it takes
a snapshot of the registry, in any order, offers the frame to one endpoint after another, and drops
those that refuse it; between these steps others may change the hub. The pump of the feed takes no step while
its handler is busy, but its reader does.

Each message that was told has one broadcast, in order, and a broadcast queues its frame once for
every endpoint that took it (`Lane.Fair`). A broadcast that nothing interrupts does what
`Hub.broadcast` does (`Lane.run_broadcast`).
-/

namespace FeedRelay

/-- A broadcast: its message, the endpoints in its snapshot, and those that the frame was offered
to so far, each with whether its receiver was there. -/
structure Delivery where
  message : Message
  snapshot : List Endpoint
  offers : List (Endpoint × Bool)

namespace Delivery

/-- The frame that a broadcast offers. -/
def frame (d : Delivery) : Frame :=
  d.message.toFrame

/-- Whether the frame was offered to an endpoint whose receiver was there. -/
def reached (d : Delivery) (e : Endpoint) : Bool :=
  (e, true) ∈ d.offers

/-- The broadcast after one more offer. -/
def offered (d : Delivery) (e : Endpoint) (alive : Bool) : Delivery :=
  { d with offers := d.offers ++ [(e, alive)] }

/-- What came of a broadcast so far. -/
def report (d : Delivery) : DeliveryReport where
  delivered := d.offers.countP (·.2)
  failed := (d.offers.filter (!·.2)).map (·.1.id)

theorem report_offered_true (d : Delivery) (e : Endpoint) :
    (d.offered e true).report = { d.report with delivered := d.report.delivered + 1 } := by
  simp [report, offered]

theorem report_offered_false (d : Delivery) (e : Endpoint) :
    (d.offered e false).report = { d.report with failed := d.report.failed ++ [e.id] } := by
  simp [report, offered]

/-- What a broadcast puts on a channel: its frame for each endpoint of the channel that it
reached. -/
def framesOn (d : Delivery) (channel : Nat) : List Frame :=
  d.offers.filterMap fun (e, alive) => if alive ∧ e.channel = channel then some d.frame else none

theorem framesOn_offered (d : Delivery) (e : Endpoint) (alive : Bool) (channel : Nat) :
    (d.offered e alive).framesOn channel = d.framesOn channel ++
      if alive ∧ e.channel = channel then [d.frame] else [] := by
  rw [framesOn, offered, List.filterMap_append, framesOn]
  refine congrArg (_ ++ ·) ?_
  by_cases h : alive ∧ e.channel = channel <;> simp [h, frame]

private theorem filterMap_offers {offers : List (Endpoint × Bool)} {e : Endpoint} {frame : Frame}
    (hnodup : (offers.map (·.1)).Nodup)
    (hown : ∀ f ∈ offers.map (·.1), f.channel = e.channel → f = e) :
    offers.filterMap (fun offer =>
        if offer.2 ∧ offer.1.channel = e.channel then some frame else none) =
      if (e, true) ∈ offers then [frame] else [] := by
  induction offers with
  | nil => rfl
  | cons offer rest ih =>
    obtain ⟨f, alive⟩ := offer
    obtain ⟨hf, hrest⟩ := List.nodup_cons.mp hnodup
    have ih := ih hrest fun g hg => hown g (List.mem_cons_of_mem _ hg)
    rw [List.filterMap_cons, ih]
    by_cases hchannel : f.channel = e.channel
    · -- The endpoint of the channel is offered the frame here, so not again.
      obtain rfl := hown f List.mem_cons_self hchannel
      have hno : (f, true) ∉ rest := fun hmem => hf (List.mem_map.mpr ⟨_, hmem, rfl⟩)
      cases alive <;> simp [hno]
    · have hne : e ≠ f := fun heq => hchannel (congrArg Endpoint.channel heq.symm)
      simp [hchannel, hne]

/-- A broadcast that offers its frame to no endpoint twice puts it once on the channel of an
endpoint that it reached, if no other endpoint has the channel. -/
theorem framesOn_own {d : Delivery} {e : Endpoint} (hnodup : (d.offers.map (·.1)).Nodup)
    (hown : ∀ f ∈ d.offers.map (·.1), f.channel = e.channel → f = e) :
    d.framesOn e.channel = if d.reached e then [d.frame] else [] := by
  refine (filterMap_offers hnodup hown).trans ?_
  simp [reached]

theorem map_offers_offered (d : Delivery) (e : Endpoint) (alive : Bool) (left : List Endpoint) :
    (d.offered e alive).offers.map (·.1) ++ left = d.offers.map (·.1) ++ e :: left := by
  simp [offered]

end Delivery

/-- What the handler of a feed is doing: nothing; a broadcast that has not taken its snapshot; one
that serves the endpoints that are left; or one that drops an endpoint first. -/
inductive Stage where
  | idle
  | called (message : Message)
  | serving (d : Delivery) (left : List Endpoint)
  | evicting (d : Delivery) (refused : Endpoint) (left : List Endpoint)

namespace Stage

/-- Whether the handler is free. -/
def isIdle : Stage → Bool
  | .idle => true
  | _ => false

/-- The message of a broadcast that has not taken its snapshot. -/
def called? : Stage → Option Message
  | .called message => some message
  | _ => none

/-- The broadcast on its way. -/
def delivery? : Stage → Option Delivery
  | .serving d _ | .evicting d _ _ => some d
  | _ => none

/-- The endpoints that the frame will still be offered to. -/
def left : Stage → List Endpoint
  | .serving _ left | .evicting _ _ left => left
  | _ => []

end Stage

/-- A hub with one more frame on a channel. -/
def Hub.push (hub : Hub) (channel : Nat) (frame : Frame) : Hub :=
  hub.modifyChannel channel fun c => { c with queue := c.queue ++ [frame] }

theorem Hub.send_of_isConnected {hub : Hub} {e : Endpoint} {frame : Frame}
    (h : hub.isConnected e = true) : hub.send e frame = .ok (hub.push e.channel frame) :=
  if_pos h

theorem Hub.send_of_not_isConnected {hub : Hub} {e : Endpoint} {frame : Frame}
    (h : hub.isConnected e = false) : hub.send e frame = .error (.undelivered e.id) :=
  if_neg (ne_true_of_eq_false h)

namespace Broadcast

variable {b : Broadcast} {e : Endpoint} {message : Message}

/-- An endpoint whose receiver is there gets the frame. -/
theorem visit_of_isConnected (message : Message) (h : b.hub.isConnected e = true) :
    (b.visit message e).hub = b.hub.push e.channel message.toFrame ∧
      (b.visit message e).report = { b.report with delivered := b.report.delivered + 1 } := by
  rw [visit, Hub.send_of_isConnected h]
  exact ⟨rfl, rfl⟩

/-- An endpoint whose receiver is gone fails and is dropped. -/
theorem visit_of_not_isConnected (message : Message) (h : b.hub.isConnected e = false) :
    (b.visit message e).hub = b.hub.leave e.id ∧
      (b.visit message e).report = { b.report with failed := b.report.failed ++ [e.id] } := by
  rw [visit, Hub.send_of_not_isConnected h]
  exact ⟨rfl, rfl⟩

theorem conclude_eq (message : Message) (b : Broadcast) :
    (b.conclude message).hub = b.hub ∧ (b.conclude message).report = b.report := by
  unfold conclude
  split
  · exact ⟨rfl, rfl⟩
  · exact ⟨rfl, rfl⟩

end Broadcast

/-- A feed, the broadcasts of its messages that are done, and what its handler is doing. -/
structure Lane where
  uplink : Feed.Uplink
  finished : List Delivery
  stage : Stage

/-- The messages that the handler of a feed was called with. -/
def messagesIn (sights : List Feed.Sight) : List Message :=
  (Feed.callbacks sights).filterMap fun
    | .message message => some message
    | _ => none

/-- The frames of the messages among events. -/
def framesTold (events : List Feed.Event) : List Frame :=
  events.filterMap fun
    | .message message => some message.toFrame
    | _ => none

theorem map_toFrame_messagesIn (sights : List Feed.Sight) :
    (messagesIn sights).map Message.toFrame = framesTold (Feed.callbacks sights) := by
  rw [messagesIn, framesTold, List.map_filterMap]
  refine congrArg (List.filterMap · _) (funext fun event => ?_)
  cases event <;> rfl

theorem framesTold_map_message (messages : List Message) :
    framesTold (messages.map .message) = messages.map Message.toFrame := by
  rw [framesTold, List.filterMap_map]
  exact congrFun List.filterMap_eq_map messages

theorem framesTold_of_isBlock {key : String} {arrived : List Feed.Signal}
    {block : List Feed.Event} (h : Feed.Uplink.IsBlock key arrived block) :
    framesTold block <+: Feed.dataOf arrived := by
  obtain ⟨messages, reason, rfl, -, hmessages, -⟩ := h
  have hframes : framesTold (.opened :: messages.map .message ++ [.closed reason]) =
      messages.map Message.toFrame := by
    rw [← framesTold_map_message]
    simp [framesTold]
  rw [hframes]
  exact hmessages

theorem framesTold_of_isBegun {key : String} {arrived : List Feed.Signal}
    {block : List Feed.Event} (h : Feed.Uplink.IsBegun key arrived block) :
    framesTold block <+: Feed.dataOf arrived := by
  rcases h with rfl | ⟨messages, rfl, -, hmessages⟩
  · exact List.nil_prefix
  · have hframes : framesTold (.opened :: messages.map .message) =
        messages.map Message.toFrame := framesTold_map_message messages
    rw [hframes]
    exact hmessages

namespace Lane

/-- What may happen to a lane: its feed makes a move, or its handler goes on. The order in which a
broadcast goes through the endpoints is that in which it takes its snapshot. -/
inductive Move where
  | feed (move : Feed.Uplink.Move)
  | look (order : List Endpoint)
  | offer
  | evict
  | finish

/-- What can be seen of a lane: a sight of its feed, or a frame that it queues on a channel. -/
inductive Note where
  | seen (sight : Feed.Sight)
  | queued (channel : Nat) (frame : Frame)

/-- The sight of a feed in a note. -/
def Note.sight? : Note → Option Feed.Sight
  | .seen sight => some sight
  | .queued _ _ => none

/-- The frame that is queued on a channel according to a note. -/
def Note.frameOn? (channel : Nat) : Note → Option Frame
  | .seen _ => none
  | .queued other frame => if other = channel then some frame else none

/-- The sights of the feed of a lane. -/
def sightsIn (notes : List Note) : List Feed.Sight :=
  notes.filterMap Note.sight?

/-- The frames that a lane queued on a channel. -/
def framesOn (channel : Nat) (notes : List Note) : List Frame :=
  notes.filterMap (Note.frameOn? channel)

/-- Whether a feed makes a move without its pump: signals arrive, and its reader reads them. -/
def isOfReader : Feed.Uplink.Move → Bool
  | .arrive _ | .occur (.signal _) => true
  | _ => false

/-- The lane of a feed that starts. -/
def start (topic : Topic) (policy : ReconnectPolicy) (url : Option Url) : Lane where
  uplink := .start topic policy url
  finished := []
  stage := .idle

/-- All broadcasts that have taken their snapshot. -/
def deliveries (lane : Lane) : List Delivery :=
  lane.finished ++ lane.stage.delivery?.toList

/-- Call the handler with what a feed tells. -/
def call (lane : Lane) (u : Feed.Uplink) (sights : List Feed.Sight) : Lane :=
  match messagesIn sights with
  | [] => { lane with uplink := u }
  | message :: _ => { lane with uplink := u, stage := .called message }

/-- The machine of lanes on a hub. -/
def machine : Machine (Hub × Lane) Move Note
  | (hub, lane), .feed move =>
    if lane.stage.isIdle ∨ isOfReader move then
      (Feed.Uplink.machine lane.uplink move).map fun (u, sights) =>
        ((hub, lane.call u sights), sights.map .seen)
    else none
  | (hub, lane), .look order =>
    match lane.stage with
    | .called message =>
      if order.Perm hub.registry.snapshot then
        some ((hub, { lane with stage := .serving ⟨message, order, []⟩ order }), [])
      else none
    | _ => none
  | (hub, lane), .offer =>
    match lane.stage with
    | .serving d (e :: left) =>
      let offered := d.offered e (hub.isConnected e)
      match hub.send e d.frame with
      | .ok hub =>
        some ((hub, { lane with stage := .serving offered left }), [.queued e.channel d.frame])
      | .error _ => some ((hub, { lane with stage := .evicting offered e left }), [])
    | _ => none
  | (hub, lane), .evict =>
    match lane.stage with
    | .evicting d e left => some ((hub.leave e.id, { lane with stage := .serving d left }), [])
    | _ => none
  | (hub, lane), .finish =>
    match lane.stage with
    | .serving d [] =>
      some ((hub, { lane with finished := lane.finished ++ [d], stage := .idle }), [])
    | _ => none

/-- All that a move can do to a hub and a lane. -/
inductive Change (hub : Hub) (lane : Lane) : Move → Hub → Lane → List Note → Prop
  | feed {move : Feed.Uplink.Move} {u : Feed.Uplink} {sights : List Feed.Sight}
      (hfree : lane.stage.isIdle = true ∨ isOfReader move = true)
      (hstep : Feed.Uplink.machine lane.uplink move = some (u, sights)) :
      Change hub lane (.feed move) hub (lane.call u sights) (sights.map .seen)
  | look {message : Message} {order : List Endpoint} (hstage : lane.stage = .called message)
      (horder : order.Perm hub.registry.snapshot) :
      Change hub lane (.look order) hub
        { lane with stage := .serving ⟨message, order, []⟩ order } []
  | take {d : Delivery} {e : Endpoint} {left : List Endpoint}
      (hstage : lane.stage = .serving d (e :: left)) (halive : hub.isConnected e = true) :
      Change hub lane .offer (hub.push e.channel d.frame)
        { lane with stage := .serving (d.offered e true) left } [.queued e.channel d.frame]
  | refuse {d : Delivery} {e : Endpoint} {left : List Endpoint}
      (hstage : lane.stage = .serving d (e :: left)) (halive : hub.isConnected e = false) :
      Change hub lane .offer hub { lane with stage := .evicting (d.offered e false) e left } []
  | evict {d : Delivery} {e : Endpoint} {left : List Endpoint}
      (hstage : lane.stage = .evicting d e left) :
      Change hub lane .evict (hub.leave e.id) { lane with stage := .serving d left } []
  | finish {d : Delivery} (hstage : lane.stage = .serving d []) :
      Change hub lane .finish hub
        { lane with finished := lane.finished ++ [d], stage := .idle } []

variable {hub hub' : Hub} {lane lane' : Lane} {move : Move} {notes : List Note}

theorem change_of_machine (h : machine (hub, lane) move = some ((hub', lane'), notes)) :
    Change hub lane move hub' lane' notes := by
  cases move with
  | feed move =>
    obtain ⟨hfree, h⟩ := Option.ite_none_right_eq_some.mp h
    obtain ⟨⟨u, sights⟩, hstep, h⟩ := Option.map_eq_some_iff.mp h
    cases h
    exact .feed hfree hstep
  | look order =>
    simp only [machine] at h
    split at h
    · obtain ⟨horder, h⟩ := Option.ite_none_right_eq_some.mp h
      cases h
      exact .look ‹_› horder
    · cases h
  | offer =>
    simp only [machine] at h
    split at h
    · rename_i d e left hstage
      cases halive : hub.isConnected e with
      | true =>
        simp only [Hub.send_of_isConnected halive, halive] at h
        cases h
        exact .take hstage halive
      | false =>
        simp only [Hub.send_of_not_isConnected halive, halive] at h
        cases h
        exact .refuse hstage halive
    · cases h
  | evict =>
    simp only [machine] at h
    split at h
    · cases h
      exact .evict ‹_›
    · cases h
  | finish =>
    simp only [machine] at h
    split at h
    · cases h
      exact .finish ‹_›
    · cases h

@[simp] theorem sightsIn_append (notes more : List Note) :
    sightsIn (notes ++ more) = sightsIn notes ++ sightsIn more :=
  List.filterMap_append

@[simp] theorem framesOn_append (channel : Nat) (notes more : List Note) :
    framesOn channel (notes ++ more) = framesOn channel notes ++ framesOn channel more :=
  List.filterMap_append

theorem framesOn_queued (channel other : Nat) (frame : Frame) :
    framesOn channel [.queued other frame] = if other = channel then [frame] else [] := by
  rw [framesOn, List.filterMap_cons, Note.frameOn?]
  by_cases h : other = channel <;> simp [h]

@[simp] theorem sightsIn_map_seen (sights : List Feed.Sight) :
    sightsIn (sights.map .seen) = sights := by
  rw [sightsIn, List.filterMap_map]
  exact List.filterMap_some

@[simp] theorem framesOn_map_seen (channel : Nat) (sights : List Feed.Sight) :
    framesOn channel (sights.map .seen) = [] := by
  rw [framesOn, List.filterMap_map]
  exact List.filterMap_none ..

/-- A lane registers nobody. -/
theorem registry_of_machine (h : machine (hub, lane) move = some ((hub', lane'), notes)) :
    (hub.registry.Sorted → hub'.registry.Sorted) ∧
      ∀ e ∈ hub'.registry.snapshot, e ∈ hub.registry.snapshot := by
  cases change_of_machine h with
  | evict => exact ⟨fun hs => hs.remove _, fun e he => Registry.mem_snapshot_remove he⟩
  | _ => exact ⟨id, fun e he => he⟩

/-- A lane leaves the channels alone, or puts one frame on the channel of an endpoint whose
receiver is there. -/
theorem channels_of_machine (h : machine (hub, lane) move = some ((hub', lane'), notes)) :
    (hub'.channels = hub.channels ∧ ∀ channel, framesOn channel notes = []) ∨
      ∃ e frame, hub.isConnected e = true ∧ hub' = hub.push e.channel frame ∧
        notes = [.queued e.channel frame] := by
  cases change_of_machine h with
  | feed => exact Or.inl ⟨rfl, fun channel => framesOn_map_seen channel _⟩
  | @take d e left hstage halive => exact Or.inr ⟨e, d.frame, halive, rfl, rfl⟩
  | _ => exact Or.inl ⟨rfl, fun channel => rfl⟩

/-- A broadcast of a lane was there before the move, or the move took its snapshot or offered its
frame to one more endpoint. -/
theorem mem_deliveries_of_machine {d : Delivery}
    (h : machine (hub, lane) move = some ((hub', lane'), notes)) (hd : d ∈ lane'.deliveries) :
    d ∈ lane.deliveries ∨
      (move = .look d.snapshot ∧ lane.stage = .called d.message ∧
        d.snapshot.Perm hub.registry.snapshot ∧ d.offers = []) ∨
      ∃ d' e left, move = .offer ∧ lane.stage = .serving d' (e :: left) ∧
        d = d'.offered e (hub.isConnected e) := by
  have hparts {finished : List Delivery} {stage : Stage}
      (hd : d ∈ finished ++ stage.delivery?.toList) :
      d ∈ finished ∨ stage.delivery? = some d :=
    (List.mem_append.mp hd).imp_right Option.mem_toList.mp
  cases change_of_machine h with
  | feed hfree hstep =>
    unfold call at hd
    split at hd
    · exact Or.inl hd
    · rcases hparts hd with hd | hd
      · exact Or.inl (List.mem_append_left _ hd)
      · cases hd
  | look hstage horder =>
    rcases hparts hd with hd | hd
    · exact Or.inl (List.mem_append_left _ hd)
    · cases hd
      exact Or.inr (Or.inl ⟨rfl, hstage, horder, rfl⟩)
  | take hstage halive =>
    rcases hparts hd with hd | hd
    · exact Or.inl (List.mem_append_left _ hd)
    · cases hd
      exact Or.inr (Or.inr ⟨_, _, _, rfl, hstage, by rw [halive]⟩)
  | refuse hstage halive =>
    rcases hparts hd with hd | hd
    · exact Or.inl (List.mem_append_left _ hd)
    · cases hd
      exact Or.inr (Or.inr ⟨_, _, _, rfl, hstage, by rw [halive]⟩)
  | evict hstage =>
    rcases hparts hd with hd | hd
    · exact Or.inl (List.mem_append_left _ hd)
    · cases hd
      exact Or.inl (by simp [deliveries, hstage, Stage.delivery?])
  | finish hstage =>
    rcases hparts hd with hd | hd
    · refine Or.inl ?_
      simpa [deliveries, hstage, Stage.delivery?] using hd
    · cases hd

@[simp] theorem messagesIn_append (sights more : List Feed.Sight) :
    messagesIn (sights ++ more) = messagesIn sights ++ messagesIn more := by
  rw [messagesIn, Feed.Uplink.callbacks_append, List.filterMap_append]
  rfl

/-- A lane that has given each message that was told one broadcast, in order, and whose broadcasts
have put on every channel what they should: each goes through its snapshot, endpoint by endpoint,
and the snapshots name endpoints of `known`, none twice. -/
structure Fair (topic : Topic) (initial : Feed.State) (known : List Endpoint) (lane : Lane)
    (notes : List Note) : Prop where
  reached : Feed.Uplink.Reached topic initial lane.uplink (sightsIn notes)
  messages_eq : messagesIn (sightsIn notes) =
    lane.deliveries.map (·.message) ++ lane.stage.called?.toList
  framesOn_eq : ∀ channel, framesOn channel notes = lane.deliveries.flatMap (·.framesOn channel)
  offers_eq : ∀ d ∈ lane.finished, d.offers.map (·.1) = d.snapshot
  offers_append : ∀ d, lane.stage.delivery? = some d →
    d.offers.map (·.1) ++ lane.stage.left = d.snapshot
  nodup : ∀ d ∈ lane.deliveries, d.snapshot.Nodup
  known : ∀ d ∈ lane.deliveries, ∀ e ∈ d.snapshot, e ∈ known

namespace Fair

variable {topic : Topic} {initial : Feed.State} {known : List Endpoint} {seen : List Note}

theorem start (topic : Topic) (policy : ReconnectPolicy) (url : Option Url)
    (known : List Endpoint) :
    Fair topic (Feed.Uplink.start topic policy url).follower.state known
      (start topic policy url) [] where
  reached := Feed.Uplink.reached_start topic policy url
  messages_eq := rfl
  framesOn_eq _ := rfl
  offers_eq d hd := by cases hd
  offers_append d hd := by cases hd
  nodup d hd := by cases hd
  known d hd := by cases hd

theorem mono {more : List Endpoint} (h : Fair topic initial known lane seen)
    (hsub : ∀ e ∈ known, e ∈ more) : Fair topic initial more lane seen :=
  { h with known := fun d hd e he => hsub e (h.known d hd e he) }

/-- A move of the feed calls the handler with one message at most, and only if it is free. -/
private theorem feed (h : Fair topic initial known lane seen) {move : Feed.Uplink.Move}
    {u : Feed.Uplink} {sights : List Feed.Sight}
    (hfree : lane.stage.isIdle = true ∨ isOfReader move = true)
    (hstep : Feed.Uplink.machine lane.uplink move = some (u, sights)) :
    Fair topic initial known (lane.call u sights) (seen ++ sights.map .seen) := by
  have hreached : Feed.Uplink.Reached topic initial u (sightsIn (seen ++ sights.map .seen)) := by
    rw [sightsIn_append, sightsIn_map_seen]
    exact h.reached.step hstep
  have hframes (channel : Nat) :
      framesOn channel (seen ++ sights.map .seen) =
        lane.deliveries.flatMap (·.framesOn channel) := by
    rw [framesOn_append, framesOn_map_seen, List.append_nil]
    exact h.framesOn_eq channel
  have hmessages : messagesIn (sightsIn (seen ++ sights.map .seen)) =
      lane.deliveries.map (·.message) ++ lane.stage.called?.toList ++ messagesIn sights := by
    rw [sightsIn_append, sightsIn_map_seen, messagesIn_append, h.messages_eq]
  cases hsights : messagesIn sights with
  | nil =>
    rw [hsights, List.append_nil] at hmessages
    simp only [Lane.call, hsights]
    exact ⟨hreached, hmessages, hframes, h.offers_eq, h.offers_append, h.nodup, h.known⟩
  | cons message rest =>
    rcases h.reached.callbacks_cases hstep with hnil | ⟨rfl, event, hevent⟩
    · rw [messagesIn, hnil] at hsights
      cases hsights
    · have hidle : lane.stage = .idle := by
        rcases hfree with hidle | hreader
        · unfold Stage.isIdle at hidle
          split at hidle
          · assumption
          · cases hidle
        · cases hreader
      have hrest : rest = [] := by
        rw [messagesIn, hevent] at hsights
        cases event <;> cases hsights
        rfl
      simp only [Lane.call, hsights]
      rw [hsights, hrest] at hmessages
      obtain ⟨uplink, finished, stage⟩ := lane
      obtain rfl : stage = .idle := hidle
      exact ⟨hreached, by simpa [deliveries, Stage.delivery?, Stage.called?] using hmessages,
        hframes, h.offers_eq, (fun d hd => by cases hd), h.nodup, h.known⟩

/-- The broadcast on its way keeps its snapshot, and what it puts on the channels is noted. -/
private theorem serve {uplink : Feed.Uplink} {finished : List Delivery} {old new : Stage}
    {d d' : Delivery} (h : Fair topic initial known ⟨uplink, finished, old⟩ seen)
    (hold : old.delivery? = some d) (hnew : new.delivery? = some d')
    (hmessage : d'.message = d.message) (hsnapshot : d'.snapshot = d.snapshot)
    (hoffers : d'.offers.map (·.1) ++ new.left = d'.snapshot) (hsights : sightsIn notes = [])
    (hframes : ∀ channel, d'.framesOn channel = d.framesOn channel ++ framesOn channel notes) :
    Fair topic initial known ⟨uplink, finished, new⟩ (seen ++ notes) := by
  have hcalled {stage : Stage} {d : Delivery} (h : stage.delivery? = some d) :
      stage.called? = none := by
    cases stage with
    | called message => cases h
    | _ => rfl
  have hdeliveries : deliveries ⟨uplink, finished, old⟩ = finished ++ [d] := by
    rw [deliveries, hold]
    rfl
  have hdeliveries' : deliveries ⟨uplink, finished, new⟩ = finished ++ [d'] := by
    rw [deliveries, hnew]
    rfl
  have hmem {e : Delivery} (he : e ∈ finished ++ [d']) :
      ∃ e' ∈ finished ++ [d], e.snapshot = e'.snapshot := by
    rcases List.mem_append.mp he with he | he
    · exact ⟨e, List.mem_append_left _ he, rfl⟩
    · rw [List.mem_singleton.mp he]
      exact ⟨d, by simp, hsnapshot⟩
  have hmessages := h.messages_eq
  have hold' := h.framesOn_eq
  have hnodup := h.nodup
  have hknown := h.known
  rw [hdeliveries] at hmessages hnodup hknown
  simp only [hdeliveries] at hold'
  refine ⟨?_, ?_, ?_, h.offers_eq, ?_, ?_, ?_⟩
  · rw [sightsIn_append, hsights, List.append_nil]
    exact h.reached
  · rw [sightsIn_append, hsights, List.append_nil, hmessages, hdeliveries', hcalled hnew,
      hcalled hold, List.map_append, List.map_append, List.map_singleton, List.map_singleton,
      hmessage]
  · intro channel
    rw [framesOn_append, hold', hdeliveries', List.flatMap_append, List.flatMap_append,
      List.flatMap_singleton, List.flatMap_singleton, hframes, List.append_assoc]
  · intro e he
    rw [hnew] at he
    obtain rfl := Option.some.inj he
    exact hoffers
  · rw [hdeliveries']
    intro e he
    obtain ⟨e', he', heq⟩ := hmem he
    exact heq ▸ hnodup e' he'
  · rw [hdeliveries']
    intro e he
    obtain ⟨e', he', heq⟩ := hmem he
    exact heq ▸ hknown e' he'

/-- A broadcast takes its snapshot, and has put nothing on any channel. -/
private theorem look {uplink : Feed.Uplink} {finished : List Delivery} {message : Message}
    {snapshot : List Endpoint}
    (h : Fair topic initial known ⟨uplink, finished, .called message⟩ seen)
    (hnodup : snapshot.Nodup) (hknown : ∀ e ∈ snapshot, e ∈ known) :
    Fair topic initial known
      ⟨uplink, finished, .serving ⟨message, snapshot, []⟩ snapshot⟩ seen := by
  have hdeliveries (d : Delivery) (hd : d ∈ finished ++ [⟨message, snapshot, []⟩]) :
      d ∈ deliveries ⟨uplink, finished, .called message⟩ ∨ d.snapshot = snapshot := by
    rcases List.mem_append.mp hd with hd | hd
    · exact Or.inl (List.mem_append_left _ hd)
    · exact Or.inr (congrArg Delivery.snapshot (List.mem_singleton.mp hd))
  refine ⟨h.reached, ?_, ?_, h.offers_eq, ?_, ?_, ?_⟩
  · rw [h.messages_eq]
    simp [deliveries, Stage.delivery?, Stage.called?]
  · intro channel
    rw [h.framesOn_eq]
    simp [deliveries, Stage.delivery?, Delivery.framesOn]
  · rintro d ⟨⟩
    rfl
  · intro d hd
    rcases hdeliveries d hd with hd | hd
    · exact h.nodup d hd
    · exact hd ▸ hnodup
  · intro d hd
    rcases hdeliveries d hd with hd | hd
    · exact h.known d hd
    · exact hd ▸ hknown

/-- A broadcast that has served its snapshot is finished. -/
private theorem finish {uplink : Feed.Uplink} {finished : List Delivery} {d : Delivery}
    (h : Fair topic initial known ⟨uplink, finished, .serving d []⟩ seen) :
    Fair topic initial known ⟨uplink, finished ++ [d], .idle⟩ seen := by
  have hdeliveries : deliveries ⟨uplink, finished ++ [d], .idle⟩ =
      deliveries ⟨uplink, finished, .serving d []⟩ := List.append_nil _
  refine ⟨h.reached, ?_, ?_, ?_, ?_, ?_, ?_⟩
  · rw [hdeliveries]
    exact h.messages_eq
  · rw [hdeliveries]
    exact h.framesOn_eq
  · intro other hother
    rcases List.mem_append.mp hother with hother | hother
    · exact h.offers_eq other hother
    · obtain rfl := List.mem_singleton.mp hother
      exact (List.append_nil _).symm.trans (h.offers_append other rfl)
  · rintro other ⟨⟩
  · rw [hdeliveries]
    exact h.nodup
  · rw [hdeliveries]
    exact h.known

/-- Each move keeps a lane fair. -/
theorem step (h : Fair topic initial known lane seen) (hsorted : hub.registry.Sorted)
    (hknown : ∀ e ∈ hub.registry.snapshot, e ∈ known)
    (hstep : machine (hub, lane) move = some ((hub', lane'), notes)) :
    Fair topic initial known lane' (seen ++ notes) := by
  obtain ⟨uplink, finished, stage⟩ := lane
  cases change_of_machine hstep with
  | feed hfree hmove => exact h.feed hfree hmove
  | @look message order hstage horder =>
    obtain rfl : stage = .called message := hstage
    rw [List.append_nil]
    exact h.look (horder.nodup_iff.mpr hsorted.nodup_snapshot)
      fun e he => hknown e (horder.mem_iff.mp he)
  | @take d e left hstage halive =>
    obtain rfl : stage = .serving d (e :: left) := hstage
    refine h.serve rfl rfl rfl rfl ?_ rfl fun channel => ?_
    · exact (d.map_offers_offered e true left).trans (h.offers_append d rfl)
    · rw [Delivery.framesOn_offered, framesOn_queued]
      simp
  | @refuse d e left hstage halive =>
    obtain rfl : stage = .serving d (e :: left) := hstage
    refine h.serve rfl rfl rfl rfl ?_ rfl fun channel => ?_
    · exact (d.map_offers_offered e false left).trans (h.offers_append d rfl)
    · rw [Delivery.framesOn_offered, if_neg (by simp)]
      rfl
  | @evict d e left hstage =>
    obtain rfl : stage = .evicting d e left := hstage
    exact h.serve rfl rfl rfl rfl (h.offers_append d rfl) rfl fun channel =>
      (List.append_nil _).symm
  | @finish d hstage =>
    obtain rfl : stage = .serving d [] := hstage
    rw [List.append_nil]
    exact h.finish

/-- No broadcast offers its frame to endpoints outside its snapshot, or to one twice. -/
theorem offers_prefix (h : Fair topic initial known lane seen) {d : Delivery}
    (hd : d ∈ lane.deliveries) : d.offers.map (·.1) <+: d.snapshot := by
  rcases List.mem_append.mp hd with hd | hd
  · exact ⟨[], by rw [List.append_nil, h.offers_eq d hd]⟩
  · rw [← h.offers_append d (Option.mem_toList.mp hd)]
    exact List.prefix_append _ _

/-- What a lane put on the channel of an endpoint that no other endpoint has is the frames of the
broadcasts that reached the endpoint. -/
theorem framesOn_own (h : Fair topic initial known lane seen) {e : Endpoint}
    (hown : ∀ f ∈ known, f.channel = e.channel → f = e) :
    framesOn e.channel seen = (lane.deliveries.filter (·.reached e)).map Delivery.frame := by
  have hframes : ∀ d ∈ lane.deliveries,
      d.framesOn e.channel = if d.reached e then [d.frame] else [] := by
    intro d hd
    have hpre := h.offers_prefix hd
    refine Delivery.framesOn_own (hpre.sublist.nodup (h.nodup d hd)) fun f hf => ?_
    exact hown f (h.known d hd f (hpre.subset hf))
  rw [h.framesOn_eq]
  generalize lane.deliveries = deliveries at hframes
  induction deliveries with
  | nil => rfl
  | cons d rest ih =>
    rw [List.flatMap_cons, ih fun d hd => hframes d (List.mem_cons_of_mem _ hd),
      hframes d List.mem_cons_self, List.filter_cons]
    cases d.reached e <;> rfl

/-- The messages of the broadcasts, with one whose broadcast begins, are told in order: those of
each connection are a beginning of the data frames that arrived on it. -/
theorem exists_parts (h : Fair topic initial known lane seen) :
    ∃ parts, lane.deliveries.map Delivery.frame ++
        lane.stage.called?.toList.map Message.toFrame = parts.flatten ∧
      List.Forall₂ (fun part arrived => part <+: Feed.dataOf arrived) parts
        (lane.uplink.past ++ [lane.uplink.arrived]) := by
  obtain ⟨blocks, last, htold, hpast, hbegun, -⟩ := h.reached.exists_blocks
  refine ⟨(blocks ++ [last]).map framesTold, ?_, ?_⟩
  · have hframes := congrArg (List.map Message.toFrame) h.messages_eq
    rw [List.map_append, List.map_map] at hframes
    refine hframes.symm.trans ?_
    have hflatten : blocks.flatten ++ last = (blocks ++ [last]).flatten := by simp
    rw [map_toFrame_messagesIn, htold, hflatten, framesTold, List.filterMap_flatten]
    rfl
  · rw [List.map_append]
    refine List.rel_append ?_ (.cons (framesTold_of_isBegun hbegun) .nil)
    rw [List.forall₂_map_left_iff]
    exact (hpast.imp fun _ _ => framesTold_of_isBlock).flip

end Fair

/-! ### Broadcasts that are not interrupted -/

/-- Serving one endpoint is an offer, and the end of its registration if it refuses. -/
private theorem run_visit {b : Broadcast} {d : Delivery} {e : Endpoint} {left : List Endpoint}
    (hstage : lane.stage = .serving d (e :: left)) (hreport : b.report = d.report) :
    ∃ moves notes d', d'.message = d.message ∧ d'.snapshot = d.snapshot ∧
      (b.visit d.message e).report = d'.report ∧
      machine.run (b.hub, lane) moves =
        some (((b.visit d.message e).hub, { lane with stage := .serving d' left }), notes) := by
  cases halive : b.hub.isConnected e with
  | true =>
    obtain ⟨hhub, hreached⟩ := Broadcast.visit_of_isConnected d.message halive
    rw [hreport, ← Delivery.report_offered_true d e] at hreached
    have hoffer : machine (b.hub, lane) .offer = some ((b.hub.push e.channel d.frame,
        { lane with stage := .serving (d.offered e true) left }),
          [.queued e.channel d.frame]) := by
      simp only [machine, hstage, Hub.send_of_isConnected halive, halive]
    rw [hhub]
    exact ⟨[.offer], _, d.offered e true, rfl, rfl, hreached, machine.run_singleton.mpr hoffer⟩
  | false =>
    obtain ⟨hhub, hfailed⟩ := Broadcast.visit_of_not_isConnected d.message halive
    rw [hreport, ← Delivery.report_offered_false d e] at hfailed
    have hoffer : machine (b.hub, lane) .offer = some ((b.hub,
        { lane with stage := .evicting (d.offered e false) e left }), []) := by
      simp only [machine, hstage, Hub.send_of_not_isConnected halive, halive]
    have hevict : machine (b.hub, { lane with stage := .evicting (d.offered e false) e left })
        .evict = some ((b.hub.leave e.id,
          { lane with stage := .serving (d.offered e false) left }), []) := rfl
    rw [hhub]
    exact ⟨[.offer] ++ [.evict], _, d.offered e false, rfl, rfl, hfailed,
      machine.run_append (machine.run_singleton.mpr hoffer) (machine.run_singleton.mpr hevict)⟩

private theorem run_serve {b : Broadcast} {d : Delivery} {left : List Endpoint}
    (hstage : lane.stage = .serving d left) (hreport : b.report = d.report) :
    ∃ moves notes d', d'.message = d.message ∧ d'.snapshot = d.snapshot ∧
      (left.foldl (Broadcast.visit d.message) b).report = d'.report ∧
      machine.run (b.hub, lane) moves =
        some (((left.foldl (Broadcast.visit d.message) b).hub,
          { lane with stage := .serving d' [] }), notes) := by
  induction left generalizing lane b d with
  | nil =>
    refine ⟨[], [], d, rfl, rfl, hreport, ?_⟩
    rw [Machine.run_nil, List.foldl_nil, ← hstage]
  | cons e rest ih =>
    obtain ⟨first, notes, d', hmessage, hsnapshot, hvisit, hrun⟩ := run_visit hstage hreport
    have hnext : ({ lane with stage := .serving d' rest } : Lane).stage = .serving d' rest := rfl
    obtain ⟨others, more, d'', hmessage', hsnapshot', hreport', hrun'⟩ := ih hnext hvisit
    rw [hmessage] at hreport' hrun'
    exact ⟨first ++ others, notes ++ more, d'', hmessage'.trans hmessage,
      hsnapshot'.trans hsnapshot, hreport', machine.run_append hrun hrun'⟩

/-- A broadcast that is not interrupted does what `Hub.broadcast` does. -/
theorem run_broadcast (hub : Hub) {message : Message} (hstage : lane.stage = .called message) :
    ∃ moves notes d, d.message = message ∧ d.snapshot = hub.registry.snapshot ∧
      (hub.broadcast message).report = d.report ∧
      machine.run (hub, lane) moves = some (((hub.broadcast message).hub,
        { lane with finished := lane.finished ++ [d], stage := .idle }), notes) := by
  let d : Delivery := ⟨message, hub.registry.snapshot, []⟩
  let served : Lane := { lane with stage := .serving d hub.registry.snapshot }
  have hlook : machine (hub, lane) (.look hub.registry.snapshot) = some ((hub, served), []) := by
    simp only [machine, hstage, if_pos (List.Perm.refl hub.registry.snapshot)]
    rfl
  have hserving : served.stage = .serving d hub.registry.snapshot := rfl
  have hstart : (Broadcast.start hub).report = d.report := rfl
  obtain ⟨moves, notes, d', hmessage, hsnapshot, hreport, hrun⟩ := run_serve hserving hstart
  obtain ⟨hhub, hconcluded⟩ := Broadcast.conclude_eq message
    (hub.registry.snapshot.foldl (Broadcast.visit message) (Broadcast.start hub))
  refine ⟨[.look hub.registry.snapshot] ++ (moves ++ [.finish]), [] ++ (notes ++ []), d', hmessage, hsnapshot,
    hconcluded.trans hreport, ?_⟩
  refine machine.run_append (machine.run_singleton.mpr hlook)
    (machine.run_append hrun (machine.run_singleton.mpr ?_))
  rw [Hub.broadcast, Broadcast.serve, hhub]
  rfl

/-- A broadcast on its way comes to its end by moves of its own. -/
theorem exists_finish (hub : Hub) {d : Delivery} (hd : lane.stage.delivery? = some d) :
    ∃ moves notes hub' lane',
      machine.run (hub, lane) (moves ++ [.finish]) = some ((hub', lane'), notes) := by
  have hserving (hub : Hub) {lane : Lane} {d : Delivery} {left : List Endpoint}
      (hstage : lane.stage = .serving d left) : ∃ moves notes hub' lane',
        machine.run (hub, lane) (moves ++ [.finish]) = some ((hub', lane'), notes) := by
    obtain ⟨moves, notes, d', -, -, -, hrun⟩ :=
      run_serve (b := ⟨hub, d.report, []⟩) hstage rfl
    exact ⟨moves, _, _, _, machine.run_append hrun (machine.run_singleton.mpr rfl)⟩
  cases hstage : lane.stage with
  | idle => simp [hstage, Stage.delivery?] at hd
  | called message => simp [hstage, Stage.delivery?] at hd
  | serving d' left => exact hserving hub hstage
  | evicting d' e left =>
    have hevict : machine (hub, lane) .evict =
        some ((hub.leave e.id, { lane with stage := .serving d' left }), []) := by
      simp only [machine, hstage]
    have hleft : ({ lane with stage := .serving d' left } : Lane).stage = .serving d' left := rfl
    obtain ⟨moves, notes, hub', lane', hrun⟩ := hserving (hub.leave e.id) hleft
    have hall := machine.run_append (machine.run_singleton.mpr hevict) hrun
    rw [← List.append_assoc] at hall
    exact ⟨_, _, _, _, hall⟩

end Lane

end FeedRelay
