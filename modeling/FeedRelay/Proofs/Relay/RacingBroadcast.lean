import Mathlib.Data.List.Nodup
import FeedRelay.Proofs.Relay.WalkOrder

/-!
# A broadcast among the moves of others

While a broadcast walks through its snapshot, others register endpoints and end registrations, and
receivers go away. Each endpoint of the snapshot gets one turn all the same (`Traffic.turn`), and
what comes of the turn depends on whether the receiver is there at that moment. A registration ends
because its endpoint failed or by a move of somebody else (`Traffic.lost`).

## Main results

* `Traffic.racing_broadcast`: what a broadcast reports, what it queues and who is registered when it
  returns, for every order of its walk and every interleaving.
-/

namespace FeedRelay

/-- What the reader of a feed does is nothing to its handler. -/
theorem Lane.call_of_isOfReader {lane : Lane} {move : Feed.Uplink.Move} {u : Feed.Uplink}
    {sights : List Feed.Sight} (hreader : isOfReader move = true)
    (h : Feed.Uplink.machine lane.uplink move = some (u, sights)) :
    lane.call u sights = { lane with uplink := u } := by
  have hnone : messagesIn sights = [] := by
    cases move with
    | arrive signal =>
      obtain ⟨-, -, rfl⟩ := Feed.Uplink.machine_arrive_eq_some.mp h
      rfl
    | occur occurrence =>
      obtain ⟨unread, g, actions, -, hstep, -, rfl⟩ := Feed.Uplink.machine_occur_eq_some.mp h
      cases occurrence with
      | signal signal =>
        obtain ⟨s, -, hstep⟩ := Option.map_eq_some_iff.mp hstep
        obtain ⟨-, rfl⟩ := Prod.mk.inj hstep
        rw [messagesIn, Feed.Uplink.callbacks_sightsOf]
        rfl
      | _ => cases hreader
  rw [Lane.call, hnone]

namespace Traffic

/-- Whether a move is one of lane `n`. -/
def Move.isOf (n : Nat) : Move → Bool
  | .lane m _ => m = n
  | _ => false

/-- The turn that lane `n` gives to an endpoint by a move, with whether the receiver is there. -/
def turn (n : Nat) (t : Traffic) (move : Move) (_ : Traffic) : List (Endpoint × Bool) :=
  match move, (t.lanes[n]?).map Lane.stage with
  | .lane m .offer, some (.serving _ (e :: _)) => if m = n then [(e, t.hub.isConnected e)] else []
  | _, _ => []

/-- The endpoints whose registration ends by a move that is not one of lane `n`. -/
def lost (n : Nat) (t : Traffic) (move : Move) (u : Traffic) : List Endpoint :=
  if move.isOf n then []
  else t.hub.registry.snapshot.filter (· ∉ u.hub.registry.snapshot)

/-- A broadcast of lane `n` that has just taken what is registered as its snapshot, in some
order. -/
structure Begun (n : Nat) (message : Message) (order : List Endpoint) (lane : Lane) (t : Traffic) :
    Prop where
  lane_eq : t.lanes[n]? = some lane
  stage_eq : lane.stage = .serving ⟨message, order, []⟩ order
  perm : order.Perm t.hub.registry.snapshot

/-- What a broadcast has done about the endpoints that failed: all of them were dropped, or all but
the one that is dropped next. -/
inductive Dropping (d : Delivery) : Stage → List String → Prop
  | serving (left : List Endpoint) : Dropping d (.serving d left) d.report.failed
  | evicting {e : Endpoint} {left : List Endpoint} {gone : List String}
      (h : d.report.failed = gone ++ [e.id]) : Dropping d (.evicting d e left) gone

variable {n : Nat} {message : Message} {order : List Endpoint} {first lane lane' : Lane}
  {d : Delivery} {gone : List String} {t t' u : Traffic} {move : Move} {moves : List Move}
  {notes more : List Note}

theorem Dropping.delivery?_eq {stage : Stage} (h : Dropping d stage gone) :
    stage.delivery? = some d := by
  cases h <;> rfl

theorem Dropping.sub_failed {stage : Stage} (h : Dropping d stage gone) {id : String}
    (hid : id ∈ gone) : id ∈ d.report.failed := by
  cases h with
  | serving => exact hid
  | evicting h =>
    rw [h]
    exact List.mem_append_left _ hid

/-! ### Moves of others -/

/-- A move of another leaves a lane alone. -/
theorem lane_of_other (hother : move.isOf n = false) (hlane : t.lanes[n]? = some lane)
    (h : machine t move = some (t', more)) : t'.lanes[n]? = some lane ∧ notesOf n more = [] := by
  cases move with
  | launch topic policy url =>
    cases h
    exact ⟨getElem?_concat_eq_some.mpr (.inl hlane), rfl⟩
  | lane m own =>
    have hne : m ≠ n := of_decide_eq_false hother
    obtain ⟨old, hub, new, seen, -, -, rfl, rfl⟩ := machine_lane_eq_some.mp h
    rw [notesOf_map_lane, if_neg hne]
    exact ⟨(List.getElem?_set_ne hne).trans hlane, rfl⟩
  | add e =>
    obtain ⟨-, heq⟩ := Option.ite_none_right_eq_some.mp h
    cases heq
    exact ⟨hlane, rfl⟩
  | take channel =>
    simp only [machine] at h
    split at h
    · cases h
      exact ⟨hlane, rfl⟩
    · cases h
  | _ =>
    cases h
    exact ⟨hlane, rfl⟩

/-- A run of a lane is one of the traffic. -/
theorem run_lane {own : List Lane.Move} {hub : Hub} {seen : List Lane.Note}
    (hlane : t.lanes[n]? = some lane)
    (h : Lane.machine.run (t.hub, lane) own = some ((hub, lane'), seen)) :
    machine.run t (own.map (.lane n)) =
      some ({ hub, lanes := t.lanes.set n lane' }, seen.map (.lane n)) := by
  induction own generalizing t lane seen with
  | nil =>
    cases h
    have hsame : t.lanes.set n lane' = t.lanes := by
      refine List.ext_getElem? fun m => ?_
      rw [List.getElem?_set]
      split
      · rename_i heq
        rw [← heq, if_pos (List.getElem?_eq_some_iff.mp hlane).1, hlane]
      · rfl
    rw [hsame]
    rfl
  | cons move rest ih =>
    obtain ⟨⟨⟨hub', mid⟩, first⟩, hfirst, h⟩ := Option.bind_eq_some_iff.mp h
    obtain ⟨⟨_, later⟩, hrest, heq⟩ := Option.map_eq_some_iff.mp h
    obtain ⟨rfl, rfl⟩ := Prod.mk.inj heq
    have hset : (t.lanes.set n mid)[n]? = some mid :=
      List.getElem?_set_self (List.getElem?_eq_some_iff.mp hlane).1
    have hstep : machine t (.lane n move) =
        some ({ hub := hub', lanes := t.lanes.set n mid }, first.map (.lane n)) :=
      machine_lane_eq_some.mpr ⟨lane, hub', mid, first, hlane, hfirst, rfl, rfl⟩
    have hall := machine.run_append (machine.run_singleton.mpr hstep) (ih hset hrest)
    rw [List.set_set, ← List.map_append] at hall
    exact hall

/-- A move registers an endpoint, or registers nobody. -/
theorem registry_of_step (h : machine t move = some (t', more)) :
    (∃ e, move = .add e ∧ t'.hub.registry = t.hub.registry.add e) ∨
      added [move] = [] ∧
        ∀ e ∈ t'.hub.registry.snapshot, e ∈ t.hub.registry.snapshot := by
  cases move with
  | lane m own =>
    obtain ⟨old, hub, new, seen, -, hown, rfl, rfl⟩ := machine_lane_eq_some.mp h
    exact .inr ⟨rfl, (Lane.registry_of_machine hown).2⟩
  | add e =>
    obtain ⟨-, heq⟩ := Option.ite_none_right_eq_some.mp h
    cases heq
    exact .inl ⟨e, rfl, rfl⟩
  | remove id =>
    cases h
    exact .inr ⟨rfl, fun e he => Registry.mem_snapshot_remove he⟩
  | take channel =>
    simp only [machine] at h
    split at h
    · cases h
      exact .inr ⟨rfl, fun e he => he⟩
    · cases h
  | _ =>
    cases h
    exact .inr ⟨rfl, fun e he => he⟩

/-! ### A broadcast on its way -/

/-- What holds while a broadcast that began with `start` is on its way: its offers are the turns
that it gave, and the endpoints that are registered are those of the snapshot and those that came
later, without those that it dropped and those that others dropped. -/
structure Underway (n : Nat) (message : Message) (order : List Endpoint) (first : Lane)
    (start : Traffic) (moves : List Move) (t : Traffic) (notes : List Note) (lane : Lane)
    (d : Delivery) (gone : List String) : Prop where
  lane_eq : t.lanes[n]? = some lane
  finished_eq : lane.finished = first.finished
  dropping : Dropping d lane.stage gone
  message_eq : d.message = message
  snapshot_eq : d.snapshot = order
  offers_eq : d.offers = machine.observed (turn n) start moves
  order_eq : d.offers.map (·.1) ++ lane.stage.left = order
  framesOn_eq : ∀ channel, Lane.framesOn channel (notesOf n notes) = d.framesOn channel
  lost_known : ∀ e ∈ machine.observed (lost n) start moves, e ∈ order ++ added moves
  registered_iff : ∀ e, e ∈ t.hub.registry.snapshot ↔
    e ∈ order ++ added moves ∧ e ∉ machine.observed (lost n) start moves ∧ e.id ∉ gone

/-- A lane that looks begins a broadcast. -/
theorem begun_of_look (h : machine t (.lane n (.look order)) = some (u, notes)) :
    ∃ message lane, Begun n message order lane u := by
  obtain ⟨old, hub, new, seen, hold, hmove, rfl, rfl⟩ := machine_lane_eq_some.mp h
  cases Lane.change_of_machine hmove with
  | @look message _ hstage horder =>
    exact ⟨message, _, List.getElem?_set_self (List.getElem?_eq_some_iff.mp hold).1, rfl, horder⟩

/-- At its beginning a broadcast is on its way. -/
theorem Begun.underway (h : Begun n message order lane t) :
    Underway n message order lane t [] t [] lane ⟨message, order, []⟩ [] where
  lane_eq := h.lane_eq
  finished_eq := rfl
  dropping := by
    rw [h.stage_eq]
    exact .serving order
  message_eq := rfl
  snapshot_eq := rfl
  offers_eq := rfl
  order_eq := by
    rw [h.stage_eq]
    rfl
  framesOn_eq channel := rfl
  lost_known e he := by cases he
  registered_iff e := by
    rw [← h.perm.mem_iff]
    simp [added, Machine.observed]

namespace Underway

variable {start : Traffic}

/-- Those that a broadcast dropped are of its snapshot. -/
theorem gone_known (h : Underway n message order first start moves t notes lane d gone)
    {id : String} (hid : id ∈ gone) : id ∈ order.map (·.id) := by
  obtain ⟨offer, hoffer, rfl⟩ := List.mem_map.mp (h.dropping.sub_failed hid)
  have hmem := List.mem_map_of_mem (f := (·.1)) (List.mem_filter.mp hoffer).1
  rw [← h.order_eq]
  exact List.mem_map_of_mem (List.mem_append_left _ hmem)

/-- A move of another keeps a broadcast on its way. -/
private theorem stepOther (h : Underway n message order first start moves t notes lane d gone)
    (hids : ((order ++ added (moves ++ [move])).map (·.id)).Nodup)
    (hrun : machine.run start moves = some (t, notes))
    (hother : move.isOf n = false) (hstep : machine t move = some (t', more)) :
    Underway n message order first start (moves ++ [move]) t' (notes ++ more) lane d gone := by
  obtain ⟨hlane, hnotes⟩ := lane_of_other hother h.lane_eq hstep
  have hturns := Machine.observed_concat (turn n) hrun hstep
  have hlost := Machine.observed_concat (lost n) hrun hstep
  have hturn : turn n t move t' = [] := by
    unfold turn
    split
    · exact if_neg (of_decide_eq_false hother)
    · rfl
  rw [hturn, List.append_nil] at hturns
  rw [lost, if_neg (by simp [hother])] at hlost
  have hframes (channel : Nat) :
      Lane.framesOn channel (notesOf n (notes ++ more)) = d.framesOn channel := by
    rw [notesOf_append, hnotes, List.append_nil, h.framesOn_eq]
  rw [added_append, ← List.append_assoc] at hids
  obtain ⟨e, rfl, hregistry⟩ | ⟨hnone, hsub⟩ := registry_of_step hstep
  · -- The endpoint is new: nobody has its id, so it takes no one's place.
    have hnew (f : Endpoint) (hf : f ∈ order ++ added moves) : f.id ≠ e.id := by
      rw [List.map_append, List.nodup_append] at hids
      exact hids.2.2 _ (List.mem_map_of_mem hf) _ (List.mem_singleton_self _)
    have hknown (f : Endpoint) (hf : f ∈ t.hub.registry.snapshot) : f ∈ order ++ added moves :=
      ((h.registered_iff f).mp hf).1
    have hadd (f : Endpoint) : f ∈ t'.hub.registry.snapshot ↔
        f = e ∨ f ∈ t.hub.registry.snapshot := by
      rw [hregistry]
      exact Registry.mem_snapshot_add_iff fun g hg => hnew g (hknown g hg)
    have hkept : t.hub.registry.snapshot.filter (· ∉ t'.hub.registry.snapshot) = [] := by
      rw [List.filter_eq_nil_iff]
      intro f hf
      simp [hadd, hf]
    have hadded : added (moves ++ [.add e]) = added moves ++ [e] := added_append ..
    rw [hkept, List.append_nil] at hlost
    refine ⟨hlane, h.finished_eq, h.dropping, h.message_eq, h.snapshot_eq, ?_, h.order_eq, hframes,
      ?_, fun f => ?_⟩
    · rw [hturns, h.offers_eq]
    · rw [hlost, hadded, ← List.append_assoc]
      exact fun f hf => List.mem_append_left _ (h.lost_known f hf)
    · rw [hadd, hlost, hadded, ← List.append_assoc, List.mem_append, List.mem_singleton,
        h.registered_iff]
      by_cases hf : f = e
      · subst hf
        have hnotLost : f ∉ machine.observed (lost n) start moves := fun hmem =>
          hnew f (h.lost_known f hmem) rfl
        have hnotGone : f.id ∉ gone := fun hid => by
          obtain ⟨g, hg, heq⟩ := List.mem_map.mp (h.gone_known hid)
          exact hnew g (List.mem_append_left _ hg) heq
        simp [hnotLost, hnotGone]
      · simp [hf]
  · have hadded : added (moves ++ [move]) = added moves := by
      rw [added_append, hnone, List.append_nil]
    refine ⟨hlane, h.finished_eq, h.dropping, h.message_eq, h.snapshot_eq, ?_, h.order_eq, hframes,
      ?_, fun f => ?_⟩
    · rw [hturns, h.offers_eq]
    · rw [hlost, hadded]
      intro f hf
      rcases List.mem_append.mp hf with hf | hf
      · exact h.lost_known f hf
      · exact ((h.registered_iff f).mp (List.mem_filter.mp hf).1).1
    · have hends : f ∉ machine.observed (lost n) start (moves ++ [move]) ↔
          f ∉ machine.observed (lost n) start moves ∧
            ¬(f ∈ t.hub.registry.snapshot ∧ f ∉ t'.hub.registry.snapshot) := by
        simp [hlost]
      rw [hends, hadded]
      have hregistered := h.registered_iff f
      have hkept := hsub f
      tauto

/-- A broadcast stays on its way if its turns, its frames and the endpoints that it drops go on with
what a move of its own does. -/
private theorem carry (h : Underway n message order first start moves t notes lane d gone)
    (hrun : machine.run start moves = some (t, notes)) {own : Lane.Move} {hub : Hub}
    {seen : List Lane.Note} {d' : Delivery} {gone' : List String}
    (hmove : Lane.machine (t.hub, lane) own = some ((hub, lane'), seen))
    (hfinished : lane'.finished = lane.finished) (hdropping : Dropping d' lane'.stage gone')
    (hmessage : d'.message = d.message) (hsnapshot : d'.snapshot = d.snapshot)
    (hoffers : d'.offers = d.offers ++ turn n t (.lane n own) t)
    (horder : d'.offers.map (·.1) ++ lane'.stage.left = order)
    (hframes : ∀ channel, d'.framesOn channel = d.framesOn channel ++ Lane.framesOn channel seen)
    (hgone : ∀ id ∈ gone, id ∈ gone')
    (hregistry : ∀ e, e ∈ hub.registry.snapshot ↔ e ∈ t.hub.registry.snapshot ∧ e.id ∉ gone') :
    Underway n message order first start (moves ++ [.lane n own])
      { hub, lanes := t.lanes.set n lane' } (notes ++ seen.map (.lane n)) lane' d' gone' := by
  have hstep : machine t (.lane n own) =
      some ({ hub, lanes := t.lanes.set n lane' }, seen.map (.lane n)) :=
    machine_lane_eq_some.mpr ⟨lane, hub, lane', seen, h.lane_eq, hmove, rfl, rfl⟩
  have hturns := Machine.observed_concat (turn n) hrun hstep
  have hlost := Machine.observed_concat (lost n) hrun hstep
  have hadded : added (moves ++ [.lane n own]) = added moves :=
    (added_append ..).trans (List.append_nil _)
  rw [lost, if_pos (by simp [Move.isOf]), List.append_nil] at hlost
  refine ⟨?_, hfinished.trans h.finished_eq, hdropping, hmessage.trans h.message_eq,
    hsnapshot.trans h.snapshot_eq, ?_, horder, fun channel => ?_, ?_, fun e => ?_⟩
  · exact List.getElem?_set_self (List.getElem?_eq_some_iff.mp h.lane_eq).1
  · rw [hturns, hoffers, h.offers_eq]
    rfl
  · rw [notesOf_append, notesOf_map_lane, if_pos rfl, Lane.framesOn_append, h.framesOn_eq, hframes]
  · rw [hlost, hadded]
    exact h.lost_known
  · rw [hlost, hadded, hregistry, h.registered_iff]
    have hmono := hgone e.id
    tauto

/-- A move of its own keeps a broadcast on its way, unless it is the last one. -/
private theorem stepOwn (h : Underway n message order first start moves t notes lane d gone)
    (hrun : machine.run start moves = some (t, notes)) {own : Lane.Move} (hown : own ≠ .finish)
    (hstep : machine t (.lane n own) = some (t', more)) :
    ∃ lane' d' gone', Underway n message order first start (moves ++ [.lane n own]) t'
      (notes ++ more) lane' d' gone' := by
  obtain ⟨old, hub, new, seen, hold, hmove, rfl, rfl⟩ := machine_lane_eq_some.mp hstep
  obtain rfl := Option.some.inj (h.lane_eq.symm.trans hold)
  have hsame (e : Endpoint) (he : e ∈ t.hub.registry.snapshot) : e.id ∉ gone :=
    ((h.registered_iff e).mp he).2.2
  have hturn (hoffer : own ≠ .offer) : turn n t (.lane n own) t = [] := by
    unfold turn
    split
    · rename_i heq _
      exact absurd (Move.lane.inj heq).2 hoffer
    · rfl
  have horder := h.order_eq
  have hdropping := h.dropping
  obtain ⟨uplink, finished, stage⟩ := lane
  cases Lane.change_of_machine hmove with
  | @feed move v sights hfree hfeed =>
    have hreader : Lane.isOfReader move = true := by
      refine hfree.resolve_left fun hidle => ?_
      cases hdropping <;> cases hidle
    refine ⟨_, _, _, h.carry hrun hmove ?_ ?_ rfl rfl ?_ ?_ (fun channel => ?_) (fun id hid => hid)
      fun e => ?_⟩
    · rw [Lane.call_of_isOfReader hreader hfeed]
    · rw [Lane.call_of_isOfReader hreader hfeed]
      exact hdropping
    · rw [hturn (by simp), List.append_nil]
    · rw [Lane.call_of_isOfReader hreader hfeed]
      exact horder
    · rw [Lane.framesOn_map_seen, List.append_nil]
    · exact ⟨fun he => ⟨he, hsame e he⟩, fun he => he.1⟩
  | look hstage =>
    obtain rfl : stage = .called _ := hstage
    cases hdropping
  | @take d' e left hstage halive =>
    obtain rfl : stage = .serving d' (e :: left) := hstage
    cases hdropping
    have hoffer : turn n t (.lane n .offer) t = [(e, true)] := by simp [turn, hold, halive]
    refine ⟨_, d.offered e true, d.report.failed, h.carry hrun hmove rfl ?_ rfl rfl ?_ ?_
      (fun channel => ?_) (fun id hid => hid) fun f => ?_⟩
    · have hfailed := congrArg DeliveryReport.failed (d.report_offered_true e)
      exact hfailed ▸ .serving left
    · rw [hoffer]
      rfl
    · exact (d.map_offers_offered e true left).trans horder
    · rw [Delivery.framesOn_offered, Lane.framesOn_queued]
      simp
    · exact ⟨fun hf => ⟨hf, hsame f hf⟩, fun hf => hf.1⟩
  | @refuse d' e left hstage hgone =>
    obtain rfl : stage = .serving d' (e :: left) := hstage
    cases hdropping
    have hoffer : turn n t (.lane n .offer) t = [(e, false)] := by simp [turn, hold, hgone]
    refine ⟨_, d.offered e false, d.report.failed, h.carry hrun hmove rfl ?_ rfl rfl ?_ ?_
      (fun channel => ?_) (fun id hid => hid) fun f => ?_⟩
    · exact .evicting (congrArg DeliveryReport.failed (d.report_offered_false e))
    · rw [hoffer]
      rfl
    · exact (d.map_offers_offered e false left).trans horder
    · rw [Delivery.framesOn_offered, if_neg (by simp)]
      rfl
    · exact ⟨fun hf => ⟨hf, hsame f hf⟩, fun hf => hf.1⟩
  | @evict d' e left hstage =>
    obtain rfl : stage = .evicting d' e left := hstage
    cases hdropping with
    | evicting hfailed =>
      refine ⟨_, d, d.report.failed, h.carry hrun hmove rfl (.serving left) rfl rfl ?_ horder
        (fun channel => (List.append_nil _).symm) (fun id hid => ?_) fun f => ?_⟩
      · rw [hturn (by simp), List.append_nil]
      · exact h.dropping.sub_failed hid
      · rw [hfailed]
        change f ∈ (t.hub.registry.remove e.id).snapshot ↔ _
        rw [Registry.mem_snapshot_remove_iff, List.mem_append, List.mem_singleton, not_or]
        exact ⟨fun hf => ⟨hf.1, hsame f hf.1, hf.2⟩, fun hf => ⟨hf.1, hf.2.2⟩⟩
  | finish => exact absurd rfl hown

end Underway

/-- A broadcast stays on its way until it returns, whatever others do. -/
theorem underway_of_run (hbegin : Begun n message order first t)
    (hids : ((order ++ added moves).map (·.id)).Nodup) (hreturn : .lane n .finish ∉ moves)
    (h : machine.run t moves = some (u, notes)) :
    ∃ lane d gone, Underway n message order first t moves u notes lane d gone := by
  revert hids hreturn
  refine Machine.run_induction (motive := fun moves u notes =>
    ((order ++ added moves).map (·.id)).Nodup → .lane n .finish ∉ moves →
      ∃ lane d gone, Underway n message order first t moves u notes lane d gone) ?_ ?_ h
  · intro _ _
    exact ⟨first, _, _, hbegin.underway⟩
  · intro before s seen move v more hrun hbefore hstep hids hreturn
    have hearlier : ((order ++ added before).map (·.id)).Nodup := by
      refine hids.sublist ?_
      rw [added_append, ← List.append_assoc]
      exact (List.sublist_append_left _ _).map _
    rw [List.mem_append, not_or] at hreturn
    obtain ⟨lane, d, gone, hunderway⟩ := hbefore hearlier hreturn.1
    cases hof : move.isOf n with
    | false => exact ⟨lane, d, gone, hunderway.stepOther hids hrun hof hstep⟩
    | true =>
      cases move with
      | lane m own =>
        obtain rfl : m = n := of_decide_eq_true hof
        exact hunderway.stepOwn hrun (fun heq => hreturn.2 (by simp [heq])) hstep
      | _ => cases hof

/-! ### A broadcast that nobody disturbs -/

/-- What a broadcast that began with `hub₀` has done to the hub if only its lane makes moves, by
what it is doing. -/
inductive Undisturbed (hub₀ : Hub) (message : Message) (order : List Endpoint) (hub : Hub) :
    Stage → Prop
  | serving {d : Delivery} {served left : List Endpoint} (hmessage : d.message = message)
      (horder : served ++ left = order)
      (h : Broadcast.Served hub₀ message served hub d.report) :
      Undisturbed hub₀ message order hub (.serving d left)
  | evicting {d : Delivery} {e : Endpoint} {served left : List Endpoint} {report : DeliveryReport}
      (hmessage : d.message = message) (horder : served ++ e :: left = order)
      (h : Broadcast.Served hub₀ message served hub report) (hgone : hub.isConnected e = false)
      (hreport : d.report = { report with failed := report.failed ++ [e.id] }) :
      Undisturbed hub₀ message order hub (.evicting d e left)

theorem Undisturbed.step {hub₀ hub hub' : Hub} {own : Lane.Move} {seen : List Lane.Note}
    (h : Undisturbed hub₀ message order hub lane.stage) (hown : own ≠ .finish)
    (hstep : Lane.machine (hub, lane) own = some ((hub', lane'), seen)) :
    Undisturbed hub₀ message order hub' lane'.stage := by
  obtain ⟨uplink, finished, stage⟩ := lane
  cases Lane.change_of_machine hstep with
  | feed hfree hfeed =>
    have hreader := hfree.resolve_left fun hidle => by cases h <;> cases hidle
    rw [Lane.call_of_isOfReader hreader hfeed]
    exact h
  | look hstage =>
    obtain rfl : stage = .called _ := hstage
    cases h
  | @take d e left hstage halive =>
    obtain rfl : stage = .serving d (e :: left) := hstage
    cases h with
    | @serving _ served _ hmessage horder h =>
      subst hmessage
      have hserved := h.take halive
      rw [← d.report_offered_true e] at hserved
      exact .serving rfl ((List.append_assoc served [e] left).trans horder) hserved
  | @refuse d e left hstage hgone =>
    obtain rfl : stage = .serving d (e :: left) := hstage
    cases h with
    | serving hmessage horder h =>
      exact .evicting hmessage horder h hgone (d.report_offered_false e)
  | @evict d e left hstage =>
    obtain rfl : stage = .evicting d e left := hstage
    cases h with
    | @evicting _ _ served _ report hmessage horder h hgone hreport =>
      have hserved := h.refuse hgone
      rw [← hreport] at hserved
      exact .serving hmessage ((List.append_assoc served [e] left).trans horder) hserved
  | finish => exact absurd rfl hown

theorem undisturbed_of_run (hbegin : Begun n message order first t)
    (halone : ∀ move ∈ moves, move.isOf n = true) (hreturn : .lane n .finish ∉ moves)
    (h : machine.run t moves = some (u, notes)) :
    ∃ lane, u.lanes[n]? = some lane ∧ Undisturbed t.hub message order u.hub lane.stage := by
  revert halone hreturn
  refine Machine.run_induction (motive := fun moves u _ =>
    (∀ move ∈ moves, move.isOf n = true) → .lane n .finish ∉ moves →
      ∃ lane, u.lanes[n]? = some lane ∧
        Undisturbed t.hub message order u.hub lane.stage) ?_ ?_ h
  · intro _ _
    refine ⟨first, hbegin.lane_eq, ?_⟩
    rw [hbegin.stage_eq]
    exact .serving rfl rfl (Broadcast.Served.start t.hub message)
  · intro before s _ move v more _ hbefore hstep halone hreturn
    rw [List.mem_append, not_or] at hreturn
    obtain ⟨lane, hlane, hundisturbed⟩ :=
      hbefore (fun move hmove => halone move (List.mem_append_left _ hmove)) hreturn.1
    have hof := halone move (by simp)
    cases move with
    | lane m own =>
      obtain rfl : m = n := of_decide_eq_true hof
      obtain ⟨old, hub, new, seen, hold, hmove, rfl, -⟩ := machine_lane_eq_some.mp hstep
      obtain rfl := Option.some.inj (hlane.symm.trans hold)
      refine ⟨new, List.getElem?_set_self (List.getElem?_eq_some_iff.mp hold).1, ?_⟩
      exact hundisturbed.step (fun heq => hreturn.2 (by simp [heq])) hmove
    | _ => cases hof

/-! ### The return of a broadcast -/

/-- If the offers say of an endpoint what its id says, so do the frames that they put on a
channel. -/
private theorem filterMap_offers_eq {offers : List (Endpoint × Bool)} {frame : Frame}
    {channel : Nat} {keep : Endpoint → Bool}
    (h : ∀ offer ∈ offers, (offer.2 = true ∧ offer.1.channel = channel) ↔ keep offer.1 = true) :
    offers.filterMap (fun offer =>
        if offer.2 = true ∧ offer.1.channel = channel then some frame else none) =
      ((offers.map (·.1)).filter keep).map fun _ => frame := by
  induction offers with
  | nil => rfl
  | cons offer rest ih =>
    have hoffer := h offer List.mem_cons_self
    have hrest := ih fun offer hmem => h offer (List.mem_cons_of_mem _ hmem)
    rw [List.filterMap_cons, hrest, List.map_cons]
    by_cases hkeep : keep offer.1 = true
    · rw [if_pos (hoffer.mpr hkeep), List.filter_cons_of_pos hkeep, List.map_cons]
    · rw [if_neg fun hpos => hkeep (hoffer.mp hpos), List.filter_cons_of_neg hkeep]

/-- An endpoint with an id of its own failed if its receiver was gone when its turn came. -/
private theorem mem_failed_iff {e : Endpoint} {alive : Bool} (d : Delivery)
    (hids : ((d.offers.map (·.1)).map (·.id)).Nodup) (hoffer : (e, alive) ∈ d.offers) :
    e.id ∈ d.report.failed ↔ alive = false := by
  rw [List.map_map] at hids
  constructor
  · intro hid
    obtain ⟨other, hother, heq⟩ := List.mem_map.mp hid
    obtain ⟨hother, hgone⟩ := List.mem_filter.mp hother
    obtain rfl := List.inj_on_of_nodup_map hids hother hoffer heq
    simpa using hgone
  · rintro rfl
    exact List.mem_map.mpr ⟨(e, false), List.mem_filter.mpr ⟨hoffer, rfl⟩, rfl⟩

/-- **A broadcast among the moves of others.** A broadcast takes what is registered as its snapshot
and walks through it in some order, while other lanes, those who register and those who end
registrations, and receivers make any moves; the ids of all endpoints differ. However far it is, it
can return by moves of its own. When it returns, each endpoint of the snapshot had one turn. Those
whose receiver was gone then have failed, in order and none twice, the others have been delivered
to, and one copy of the frame was queued for each of these. What waited in a channel with a receiver
when the broadcast began, and then what was queued there, is what was taken from it and, behind
that, what waits in it; and what was queued there is what the other lanes queued and one copy of the
frame for each endpoint of the channel that did not fail. The endpoints that are registered are
those of the snapshot and those that came since, without those that failed and those that others
dropped. If nobody else made a move, the hub and the report, up to the order of those that failed,
are those of `Hub.broadcast`, whatever the order of the walk. -/
theorem racing_broadcast (hbegin : Begun n message order lane t)
    (hids : ((order ++ added moves).map (·.id)).Nodup) (hreturn : .lane n .finish ∉ moves)
    (h : machine.run t moves = some (u, notes)) :
    (∃ own v more, (∀ move ∈ own, move.isOf n = true) ∧
      machine.run u (own ++ [.lane n .finish]) = some (v, more)) ∧
    ∀ v more, machine u (.lane n .finish) = some (v, more) →
      ∃ lane' d, v.lanes[n]? = some lane' ∧ lane'.finished = lane.finished ++ [d] ∧
        lane'.stage = .idle ∧ d.message = message ∧ d.snapshot = order ∧
        d.report.delivered + d.report.failed.length = order.length ∧
        (machine.observed (turn n) t moves).map (·.1) = order ∧
        d.report.failed =
          ((machine.observed (turn n) t moves).filter (!·.2)).map (·.1.id) ∧
        d.report.failed.Nodup ∧
        (∀ channel, Lane.framesOn channel (notesOf n notes) =
          (order.filter fun e => e.id ∉ d.report.failed ∧ e.channel = channel).map
            fun _ => message.toFrame) ∧
        (∀ (c : Nat) (channel : Channel), v.hub.channel? c = some channel →
          channel.receiving = true →
          t.hub.waitingIn c ++ queuedOn c notes = takenFrom c notes ++ channel.queue) ∧
        (∀ c, (queuedOn c notes).Perm (queuedByOthers n c notes ++
          (order.filter fun e => e.id ∉ d.report.failed ∧ e.channel = c).map
            fun _ => message.toFrame)) ∧
        (∀ e, e ∈ v.hub.registry.snapshot ↔ (e ∈ order ∨ e ∈ added moves) ∧
          e.id ∉ d.report.failed ∧ e ∉ machine.observed (lost n) t moves) ∧
        ((∀ move ∈ moves, move.isOf n = true) →
          v.hub = (t.hub.broadcast message).hub ∧
            d.report.delivered = (t.hub.broadcast message).report.delivered ∧
            d.report.failed.Perm (t.hub.broadcast message).report.failed) := by
  obtain ⟨lane', d, gone, hway⟩ := underway_of_run hbegin hids hreturn h
  refine ⟨?_, fun v more hfinish => ?_⟩
  · obtain ⟨own, seen, hub, last, hrun⟩ := Lane.exists_finish u.hub hway.dropping.delivery?_eq
    have hall := run_lane hway.lane_eq hrun
    rw [List.map_append] at hall
    refine ⟨own.map (.lane n), _, _, fun move hmove => ?_, hall⟩
    obtain ⟨_, -, rfl⟩ := List.mem_map.mp hmove
    exact decide_eq_true rfl
  · obtain ⟨old, hub, new, seen, hold, hmove, rfl, -⟩ := machine_lane_eq_some.mp hfinish
    obtain rfl := Option.some.inj (hway.lane_eq.symm.trans hold)
    obtain ⟨uplink, finished, stage⟩ := lane'
    cases Lane.change_of_machine hmove with
    | @finish d' hstage =>
      obtain rfl : stage = .serving d' [] := hstage
      have hdropping := hway.dropping
      cases hdropping
      have horder : d.offers.map (·.1) = order := (List.append_nil _).symm.trans hway.order_eq
      have hoffers : ((d.offers.map (·.1)).map (·.id)).Nodup := by
        rw [horder]
        exact hids.sublist ((List.sublist_append_left _ _).map _)
      have hframes (channel : Nat) : Lane.framesOn channel (notesOf n notes) =
          (order.filter fun e => e.id ∉ d.report.failed ∧ e.channel = channel).map
            fun _ => message.toFrame := by
        rw [hway.framesOn_eq, ← horder, ← hway.message_eq]
        refine filterMap_offers_eq fun offer hoffer => ?_
        have hfailed := mem_failed_iff d hoffers hoffer
        cases halive : offer.2 <;> simp_all
      refine ⟨_, d, List.getElem?_set_self (List.getElem?_eq_some_iff.mp hold).1,
        congrArg (· ++ [d]) hway.finished_eq, rfl, hway.message_eq, hway.snapshot_eq,
        ?_, ?_, ?_, ?_, hframes, (accounts_of_run h).waiting, fun c => ?_, fun e => ?_,
        fun halone => ?_⟩
      · have hlength := d.offers.length_eq_countP_add_countP (·.2)
        rw [← horder, List.length_map, hlength, Delivery.report, List.length_map,
          ← List.countP_eq_length_filter]
        simp
      · rw [← hway.offers_eq, horder]
      · rw [← hway.offers_eq]
        rfl
      · rw [List.map_map] at hoffers
        exact hoffers.sublist (List.filter_sublist.map _)
      · rw [← hframes]
        exact (queuedOn_perm n c notes).trans List.perm_append_comm
      · rw [hway.registered_iff, List.mem_append]
        tauto
      · obtain ⟨_, hlane, hundisturbed⟩ := undisturbed_of_run hbegin halone hreturn h
        obtain rfl := Option.some.inj (hway.lane_eq.symm.trans hlane)
        cases hundisturbed with
        | @serving _ served _ hmessage hserved h =>
          rw [List.append_nil] at hserved
          subst hserved
          exact h.unique (Broadcast.served_serve message _ t.hub) hbegin.perm

/-- A broadcast that has taken three endpoints as its snapshot, the last of them first. A frame waits
for the last one that it serves. -/
def threeToServe : Traffic where
  hub := ⟨⟨[⟨"x", 0⟩, ⟨"y", 1⟩, ⟨"z", 2⟩]⟩, [⟨true, [.binary [7]]⟩, ⟨true, []⟩, ⟨true, []⟩]⟩
  lanes := [{
    uplink := .start ⟨"a", none, none, []⟩ .disabled none
    finished := []
    stage := .serving ⟨⟨"a", .text "m"⟩, [⟨"z", 2⟩, ⟨"y", 1⟩, ⟨"x", 0⟩], []⟩
      [⟨"z", 2⟩, ⟨"y", 1⟩, ⟨"x", 0⟩] }]

/-- When the first endpoint has been served, it takes its frame, the second goes away, another is
dropped before its turn, and a new one comes. -/
def commotion : List Move :=
  [.lane 0 .offer, .hangUp 1, .take 2, .openChannel, .lane 0 .offer, .remove "x", .add ⟨"w", 3⟩,
    .lane 0 .evict, .lane 0 .offer]

/-- The endpoint that went away has failed, the one that was dropped before its turn has the frame
all the same, behind the one that waited, and the new one is registered. -/
theorem registered_of_commotion :
    ∃ u notes v more, ∃ d : Delivery, machine.run threeToServe commotion = some (u, notes) ∧
      machine u (.lane 0 .finish) = some (v, more) ∧
      d.report.delivered + d.report.failed.length = 3 ∧ d.report.failed = ["y"] ∧
      Lane.framesOn 0 (notesOf 0 notes) = [.text "m"] ∧
      (v.hub.channel? 0).map Channel.queue = some [.binary [7], .text "m"] ∧
      takenFrom 2 notes = [.text "m"] ∧ (v.hub.channel? 2).map Channel.queue = some [] ∧
      ⟨"x", 0⟩ ∉ v.hub.registry.snapshot ∧ ⟨"y", 1⟩ ∉ v.hub.registry.snapshot ∧
      ⟨"z", 2⟩ ∈ v.hub.registry.snapshot ∧ ⟨"w", 3⟩ ∈ v.hub.registry.snapshot := by
  have hrun : (machine.run threeToServe commotion).bind
      (fun next => (machine next.1 (.lane 0 .finish)).map fun last =>
        ([0, 2].map fun c => (queuedOn c next.2, takenFrom c next.2),
          [0, 2].map fun c => (last.1.hub.channel? c).map Channel.receiving)) =
      some ([([.text "m"], []), ([.text "m"], [.text "m"])], [some true, some true]) := by
    decide +kernel
  obtain ⟨⟨u, notes⟩, hrun, hfinish⟩ := Option.bind_eq_some_iff.mp hrun
  obtain ⟨⟨v, more⟩, hfinish, hseen⟩ := Option.map_eq_some_iff.mp hfinish
  simp only [List.map_cons, List.map_nil, Prod.mk.injEq, List.cons.injEq, and_true] at hseen
  obtain ⟨⟨⟨hqueuedX, htakenX⟩, hqueuedZ, htakenZ⟩, hthereX, hthereZ⟩ := hseen
  obtain ⟨channelX, hchannelX, hreceivingX⟩ := Option.map_eq_some_iff.mp hthereX
  obtain ⟨channelZ, hchannelZ, hreceivingZ⟩ := Option.map_eq_some_iff.mp hthereZ
  have hturns : machine.observed (turn 0) threeToServe commotion =
      [(⟨"z", 2⟩, true), (⟨"y", 1⟩, false), (⟨"x", 0⟩, true)] := by
    decide +kernel
  have hlost : machine.observed (lost 0) threeToServe commotion = [⟨"x", 0⟩] := by
    decide +kernel
  have hperm : ([⟨"z", 2⟩, ⟨"y", 1⟩, ⟨"x", 0⟩] : List Endpoint).Perm
      threeToServe.hub.registry.snapshot := by
    decide +kernel
  have hbegin : Begun 0 ⟨"a", .text "m"⟩ [⟨"z", 2⟩, ⟨"y", 1⟩, ⟨"x", 0⟩] _ threeToServe :=
    ⟨rfl, rfl, hperm⟩
  obtain ⟨-, hreturned⟩ :=
    racing_broadcast hbegin (by decide +kernel) (by simp [commotion]) hrun
  obtain ⟨_, d, -, -, -, -, -, hcount, -, hfailed, -, hframes, hwaiting, -, hregistered, -⟩ :=
    hreturned v more hfinish
  have hqueueX := hwaiting 0 channelX hchannelX hreceivingX
  rw [hqueuedX, htakenX] at hqueueX
  have hqueueX : channelX.queue = [.binary [7], .text "m"] := hqueueX.symm
  have hqueueZ := hwaiting 2 channelZ hchannelZ hreceivingZ
  rw [hqueuedZ, htakenZ] at hqueueZ
  have hqueueZ : channelZ.queue = [] := (List.cons.inj hqueueZ).2.symm
  rw [hturns] at hfailed
  have hfailed : d.report.failed = ["y"] := hfailed
  rw [hfailed, hlost] at hregistered
  refine ⟨u, notes, v, more, d, hrun, hfinish, hcount, hfailed, ?_, ?_, htakenZ, ?_, ?_, ?_, ?_, ?_⟩
  · rw [hframes 0, hfailed]
    decide +kernel
  · rw [hchannelX, Option.map_some, hqueueX]
  · rw [hchannelZ, Option.map_some, hqueueZ]
  all_goals
    rw [hregistered]
    decide +kernel

end Traffic

end FeedRelay
