import FeedRelay.Proofs.Relay.ClientSteps

/-!
# The audience of the relay

Feeds broadcast to a hub whose endpoints come and go with downstream connections. A connection
comes, and its handshake is done or fails; a client whose handshake is done is welcomed under an
id, and from then on its reading loop, its writing loop and the broadcasts go on in any order,
next to those of all other connections. A writing loop that waits learns that nothing more will
come when its endpoint is neither registered nor held by a broadcast.

Everything the audience does is traffic on its hub, so what holds of the traffic holds here as
well (`Audience.Reached.traffic`). Endpoints have ids and channels of their own, a client is
registered from its welcome until it leaves or cannot be written to, its receiver outlives its
registration, and it is written what its channel took, in order (`Audience.connection_lifecycle`).
-/

namespace FeedRelay

/-- The endpoints that a broadcast holds on to. -/
def Stage.held : Stage → List Endpoint
  | .evicting _ refused left => refused :: left
  | stage => stage.left

/-- What has become of a connection: its handshake is under way or has failed, or it is served. -/
inductive Connection where
  | greeting
  | turnedAway
  | served (c : Client)

/-- The client of a connection whose handshake is done. -/
def Connection.client? : Connection → Option Client
  | .served c => some c
  | _ => none

/-- The traffic on a hub whose endpoints are those of connections. -/
structure Audience extends Traffic where
  connections : List Connection

namespace Audience

/-- What may happen: a feed starts or makes a move, a connection comes, its handshake fails, or is
done and the client is welcomed under an id, or something happens to a client. -/
inductive Move where
  | launch (topic : Topic) (policy : ReconnectPolicy) (url : Option Url)
  | lane (number : Nat) (move : Lane.Move)
  | connect
  | turnAway (number : Nat)
  | welcome (number : Nat) (id : String) (now : Int)
  | client (number : Nat) (happening : Client.Happening)

/-- The id under which a move welcomes a client. -/
def Move.id? : Move → Option String
  | .welcome _ id _ => some id
  | _ => none

/-- The connection that a move is of. -/
def Move.connection? : Move → Option Nat
  | .turnAway n | .welcome n _ _ | .client n _ => some n
  | _ => none

/-- The ids under which moves welcome clients. -/
def idsOf (moves : List Move) : List String :=
  moves.filterMap Move.id?

/-- Nobody is there. -/
def start : Audience :=
  { Traffic.start with connections := [] }

/-- The client of a connection. -/
def client? (a : Audience) (n : Nat) : Option Client :=
  a.connections[n]?.bind Connection.client?

/-- Whether a broadcast holds on to an endpoint. -/
def isHeld (a : Audience) (e : Endpoint) : Bool :=
  a.lanes.any (·.stage.held.contains e)

/-- The audience with another hub, when a connection has become another. -/
def put (a : Audience) (hub : Hub) (n : Nat) (connection : Connection) : Audience :=
  { a with hub, connections := a.connections.set n connection }

/-- The machine of audiences. -/
def machine : Machine Audience Move Traffic.Note
  | a, .launch topic policy url =>
    (Traffic.machine a.toTraffic (.launch topic policy url)).map fun (t, notes) =>
      ({ a with toTraffic := t }, notes)
  | a, .lane n move =>
    (Traffic.machine a.toTraffic (.lane n move)).map fun (t, notes) =>
      ({ a with toTraffic := t }, notes)
  | a, .connect => some ({ a with connections := a.connections ++ [.greeting] }, [])
  | a, .turnAway n =>
    match a.connections[n]? with
    | some .greeting => some (a.put a.hub n .turnedAway, [])
    | _ => none
  | a, .welcome n id now =>
    match a.connections[n]? with
    | some .greeting =>
      let welcomed := Client.welcome a.hub id now
      some (a.put welcomed.hub n (.served welcomed.client), [])
    | _ => none
  | a, .client n happening =>
    (a.client? n).bind fun c =>
      if happening = .drained ∧ a.isHeld c.endpoint then none
      else (c.step a.hub happening).map fun next =>
        (a.put next.hub n (.served next.client),
          (next.client.took happening).map (.taken c.endpoint.channel))

/-- All that a move can do to an audience. -/
inductive Change (a : Audience) : Move → Audience → List Traffic.Note → Prop
  | launch {topic : Topic} {policy : ReconnectPolicy} {url : Option Url} :
      Change a (.launch topic policy url)
        { a with lanes := a.lanes ++ [.start topic policy url] } []
  | lane {n : Nat} {move : Lane.Move} {old new : Lane} {hub : Hub} {notes : List Lane.Note}
      (hold : a.lanes[n]? = some old)
      (hlane : Lane.machine (a.hub, old) move = some ((hub, new), notes)) :
      Change a (.lane n move) { a with hub, lanes := a.lanes.set n new } (notes.map (.lane n))
  | connect : Change a .connect { a with connections := a.connections ++ [.greeting] } []
  | turnAway {n : Nat} (hgreeting : a.connections[n]? = some .greeting) :
      Change a (.turnAway n) (a.put a.hub n .turnedAway) []
  | welcome {n : Nat} {id : String} {now : Int} (hgreeting : a.connections[n]? = some .greeting) :
      Change a (.welcome n id now) (a.put (Client.welcome a.hub id now).hub n
        (.served (Client.welcome a.hub id now).client)) []
  | client {n : Nat} {c c' : Client} {happening : Client.Happening} {hub : Hub}
      {frames : List Frame} (hclient : a.client? n = some c)
      (hchange : c.Change a.hub happening hub c' frames) :
      Change a (.client n happening) (a.put hub n (.served c'))
        (frames.map (.taken c.endpoint.channel))

variable {a b : Audience} {move : Move} {moves later : List Move} {notes more : List Traffic.Note}
  {n : Nat} {c : Client} {e : Endpoint}

theorem change_of_machine (h : machine a move = some (b, more)) : Change a move b more := by
  cases move with
  | launch topic policy url =>
    cases h
    exact .launch
  | lane n move =>
    obtain ⟨⟨t, notes⟩, hstep, h⟩ := Option.map_eq_some_iff.mp h
    obtain ⟨old, hub, new, seen, hold, hlane, rfl, rfl⟩ := Traffic.machine_lane_eq_some.mp hstep
    cases h
    exact .lane hold hlane
  | connect =>
    cases h
    exact .connect
  | turnAway n =>
    simp only [machine] at h
    split at h
    · cases h
      exact .turnAway ‹_›
    · cases h
  | welcome n id now =>
    simp only [machine] at h
    split at h
    · cases h
      exact .welcome ‹_›
    · cases h
  | client n happening =>
    obtain ⟨c, hclient, h⟩ := Option.bind_eq_some_iff.mp h
    obtain ⟨-, h⟩ := Option.ite_none_left_eq_some.mp h
    obtain ⟨next, hstep, h⟩ := Option.map_eq_some_iff.mp h
    cases h
    exact .client hclient (Client.change_of_step hstep)

theorem client?_eq_some : a.client? n = some c ↔ a.connections[n]? = some (.served c) := by
  rw [client?, Option.bind_eq_some_iff]
  constructor
  · rintro ⟨connection, hn, hc⟩
    cases connection with
    | served d =>
      obtain rfl := Option.some.inj hc
      exact hn
    | _ => cases hc
  · exact fun hn => ⟨_, hn, rfl⟩

/-- The clients after a connection has become another. -/
theorem client?_put {hub : Hub} {connection : Connection} {m : Nat} {d : Client}
    (h : (a.put hub n connection).client? m = some d) :
    m = n ∧ connection = .served d ∨ m ≠ n ∧ a.client? m = some d := by
  rcases getElem?_set_eq_some (client?_eq_some.mp h) with ⟨rfl, hd⟩ | ⟨hne, hm⟩
  · exact Or.inl ⟨rfl, hd⟩
  · exact Or.inr ⟨hne.symm, client?_eq_some.mpr hm⟩

theorem client?_put_self {connection : Connection} (h : a.connections[n]? = some connection)
    (hub : Hub) (c : Client) :
    (a.put hub n (.served c)).client? n = some c := by
  have hlt : n < a.connections.length := (List.getElem?_eq_some_iff.mp h).1
  exact client?_eq_some.mpr (List.getElem?_set_self hlt)

theorem client?_put_of_ne {hub : Hub} {connection : Connection} {m : Nat} (h : m ≠ n) :
    (a.put hub n connection).client? m = a.client? m := by
  rw [client?, put, List.getElem?_set_ne h.symm, client?]

theorem client?_connect (a : Audience) (n : Nat) :
    ({ a with connections := a.connections ++ [.greeting] } : Audience).client? n =
      a.client? n := by
  refine Option.ext fun c => client?_eq_some.trans (Iff.trans ?_ client?_eq_some.symm)
  exact getElem?_concat_eq_some.trans (or_iff_left fun h => Connection.noConfusion h.2)

theorem client?_turnAway (h : a.connections[n]? = some .greeting) :
    (a.put a.hub n .turnedAway).client? = a.client? := by
  funext m
  by_cases hmn : m = n
  · subst hmn
    have hlt : m < a.connections.length := (List.getElem?_eq_some_iff.mp h).1
    rw [client?, put, List.getElem?_set_self hlt, client?, h]
    rfl
  · exact client?_put_of_ne hmn

/-- A client keeps its endpoint, and is not served again when it has not been any more. -/
theorem client?_of_change (h : Change a move b more) (hc : a.client? n = some c) :
    ∃ c', b.client? n = some c' ∧ c'.endpoint = c.endpoint ∧
      (c'.isLive = true → c.isLive = true) := by
  have hgreeting {m : Nat} (hm : a.connections[m]? = some .greeting) : n ≠ m := by
    rintro rfl
    rw [client?_eq_some, hm] at hc
    cases hc
  cases h with
  | launch => exact ⟨c, hc, rfl, id⟩
  | lane => exact ⟨c, hc, rfl, id⟩
  | connect => exact ⟨c, (client?_connect a n).trans hc, rfl, id⟩
  | turnAway hm => exact ⟨c, (client?_put_of_ne (hgreeting hm)).trans hc, rfl, id⟩
  | welcome hm => exact ⟨c, (client?_put_of_ne (hgreeting hm)).trans hc, rfl, id⟩
  | @client m d d' happening hub frames hd hchange =>
    by_cases hnm : n = m
    · subst hnm
      obtain rfl := Option.some.inj (hd.symm.trans hc)
      exact ⟨d', client?_put_self (client?_eq_some.mp hc) hub d', hchange.endpoint_eq,
        hchange.isLive_of_isLive⟩
    · exact ⟨c, (client?_put_of_ne hnm).trans hc, rfl, id⟩

/-- Whether an endpoint is that of a connection. -/
def Knows (a : Audience) (e : Endpoint) : Prop :=
  ∃ n c, a.client? n = some c ∧ c.endpoint = e

theorem Knows.of_change (hknows : a.Knows e) (h : Change a move b more) : b.Knows e := by
  obtain ⟨n, c, hc, rfl⟩ := hknows
  obtain ⟨c', hc', heq, -⟩ := client?_of_change h hc
  exact ⟨n, c', hc', heq⟩

/-- A lane keeps all receivers. -/
private theorem receivers_of_lane {old new : Lane} {hub hub' : Hub} {own : Lane.Move}
    {seen : List Lane.Note} (hlane : Lane.machine (hub, old) own = some ((hub', new), seen)) :
    hub'.channels.length = hub.channels.length ∧
      ∀ e, hub'.isConnected e = hub.isConnected e := by
  rcases Lane.channels_of_machine hlane with ⟨hchannels, -⟩ | ⟨e, frame, -, rfl, -⟩
  · refine ⟨by rw [hchannels], fun e => ?_⟩
    rw [Hub.isConnected, Hub.channel?, hchannels, Hub.isConnected, Hub.channel?]
  · exact ⟨Hub.length_modifyChannel hub _ _, fun f => Hub.isConnected_push _ _⟩

/-- A lane drops an endpoint that it dropped before, or one that has just refused its frame. -/
private theorem evicting_of_lane {old new : Lane} {hub hub' : Hub} {own : Lane.Move}
    {seen : List Lane.Note} {d : Delivery} {left : List Endpoint}
    (hlane : Lane.machine (hub, old) own = some ((hub', new), seen))
    (hnew : new.stage = .evicting d e left) :
    old.stage = .evicting d e left ∨
      ∃ d', old.stage = .serving d' (e :: left) ∧ hub.isConnected e = false := by
  cases Lane.change_of_machine hlane with
  | feed hfree hmove =>
    unfold Lane.call at hnew
    split at hnew
    · exact Or.inl hnew
    · cases hnew
  | refuse hstage halive =>
    cases hnew
    exact Or.inr ⟨_, hstage, halive⟩
  | _ => cases hnew

/-- What holds of the audience after a run: it is traffic whose endpoints are those of connections,
each client fits the hub, no two share an id or a channel, and a broadcast drops only endpoints
whose receivers are gone. -/
structure Reached (moves : List Move) (a : Audience) (notes : List Traffic.Note) : Prop where
  traffic : ∃ steps, Traffic.Reached steps a.toTraffic notes ∧
    ∀ e ∈ Traffic.added steps, a.Knows e
  fits : ∀ n c, a.client? n = some c →
    c.Fits a.hub (Traffic.takenFrom c.endpoint.channel notes)
  apart : ∀ m n c d, a.client? m = some c → a.client? n = some d → m ≠ n →
    c.endpoint.id ≠ d.endpoint.id ∧ c.endpoint.channel ≠ d.endpoint.channel
  named : ∀ n c, a.client? n = some c → c.endpoint.id ∈ idsOf moves
  refused : ∀ (n : Nat) (lane : Lane) (d : Delivery) (e : Endpoint) (left : List Endpoint),
    a.lanes[n]? = some lane → lane.stage = .evicting d e left →
      a.Knows e ∧ a.hub.isConnected e = false

/-- A client is welcomed under an id that was not there before, if the ids are distinct. -/
theorem notMem_idsOf {id : String} {now : Int}
    (hids : (idsOf (moves ++ [.welcome n id now])).Nodup) : id ∉ idsOf moves := by
  rw [idsOf, List.filterMap_append] at hids
  exact fun hmem => (List.nodup_append.mp hids).2.2 id hmem id List.mem_cons_self rfl

theorem reached_start : Reached [] start [] where
  traffic := ⟨[], Traffic.reached_start, fun e he => by cases he⟩
  fits n c hc := by cases hc
  apart m n c d hc := by cases hc
  named n c hc := by cases hc
  refused n lane d e left hlane := by cases hlane

namespace Reached

theorem sorted (h : Reached moves a notes) : a.hub.registry.Sorted := by
  obtain ⟨steps, htraffic, -⟩ := h.traffic
  exact htraffic.sorted

theorem knows (h : Reached moves a notes) (he : e ∈ a.hub.registry.snapshot) : a.Knows e := by
  obtain ⟨steps, htraffic, hknown⟩ := h.traffic
  exact hknown e (htraffic.known e he)

/-- The endpoint of an id is that of one connection. -/
theorem eq_of_id_eq (h : Reached moves a notes) (hc : a.client? n = some c) (he : a.Knows e)
    (hid : e.id = c.endpoint.id) : e = c.endpoint := by
  obtain ⟨m, d, hd, rfl⟩ := he
  by_cases hmn : m = n
  · subst hmn
    obtain rfl := Option.some.inj (hd.symm.trans hc)
    rfl
  · exact absurd hid (h.apart m n d c hd hc hmn).1

/-- Nobody is registered under an id that no move was made with. -/
theorem id_free (h : Reached moves a notes) {id : String} (hid : id ∉ idsOf moves) :
    ∀ f ∈ a.hub.registry.snapshot, f.id ≠ id := by
  rintro f hf rfl
  obtain ⟨n, c, hc, rfl⟩ := h.knows hf
  exact hid (h.named n c hc)

/-- A registered endpoint has a receiver. -/
theorem connected (h : Reached moves a notes) (he : e ∈ a.hub.registry.snapshot) :
    a.hub.isConnected e = true := by
  obtain ⟨n, c, hc, rfl⟩ := h.knows he
  have hfits := h.fits n c hc
  have hlive := hfits.registered_iff.mp he
  refine hfits.connected_iff.mpr fun hended => ?_
  rw [Client.isLive, hended] at hlive
  simp [Client.Writing.isOpen] at hlive

/-- Nobody is registered under the id of an endpoint that is not registered itself. -/
theorem id_ne (h : Reached moves a notes) (hknows : a.Knows e)
    (he : e ∉ a.hub.registry.snapshot) : ∀ f ∈ a.hub.registry.snapshot, f.id ≠ e.id := by
  obtain ⟨n, c, hc, rfl⟩ := hknows
  intro f hf hid
  exact he (h.eq_of_id_eq hc (h.knows hf) hid ▸ hf)

/-- A broadcast that drops an endpoint finds it dropped. -/
theorem registry_of_lane (h : Reached moves a notes) {old new : Lane} {hub : Hub}
    {own : Lane.Move} {seen : List Lane.Note} (hold : a.lanes[n]? = some old)
    (hlane : Lane.machine (a.hub, old) own = some ((hub, new), seen)) :
    hub.registry = a.hub.registry := by
  cases Lane.change_of_machine hlane with
  | @evict d e left hstage =>
    obtain ⟨hknows, hgone⟩ := h.refused n old d e left hold hstage
    refine Registry.remove_eq_self (h.id_ne hknows fun he => ?_)
    rw [h.connected he] at hgone
    cases hgone
  | _ => rfl

private theorem launch (h : Reached moves a notes) (topic : Topic) (policy : ReconnectPolicy)
    (url : Option Url) :
    Reached moves { a with lanes := a.lanes ++ [.start topic policy url] } notes where
  traffic := by
    obtain ⟨steps, htraffic, hknown⟩ := h.traffic
    have hstep := htraffic.step (show Traffic.machine a.toTraffic (.launch topic policy url) =
      some ({ a.toTraffic with lanes := a.lanes ++ [.start topic policy url] }, []) from rfl)
    rw [List.append_nil] at hstep
    refine ⟨_, hstep, fun e he => hknown e ?_⟩
    rwa [Traffic.added_append, show Traffic.added [.launch topic policy url] = [] from rfl,
      List.append_nil] at he
  fits := h.fits
  apart := h.apart
  named := h.named
  refused n lane d e left hlane hstage := by
    rcases getElem?_concat_eq_some.mp hlane with hlane | ⟨-, rfl⟩
    · exact h.refused n lane d e left hlane hstage
    · cases hstage

private theorem lane (h : Reached moves a notes) {old new : Lane} {hub : Hub} {own : Lane.Move}
    {seen : List Lane.Note} (hold : a.lanes[n]? = some old)
    (hlane : Lane.machine (a.hub, old) own = some ((hub, new), seen)) :
    Reached moves { a with hub, lanes := a.lanes.set n new } (notes ++ seen.map (.lane n)) := by
  obtain ⟨steps, htraffic, hknown⟩ := h.traffic
  obtain ⟨hlength, hreceivers⟩ := receivers_of_lane hlane
  refine ⟨⟨steps ++ [.lane n own], ?_, fun e he => hknown e ?_⟩, fun m c hc => ?_, h.apart,
    h.named, fun m lane d e left hm hstage => ?_⟩
  · exact htraffic.step (Traffic.machine_lane_eq_some.mpr
      ⟨old, hub, new, seen, hold, hlane, rfl, rfl⟩)
  · rwa [Traffic.added_append, show Traffic.added [.lane n own] = [] from rfl,
      List.append_nil] at he
  · rw [Traffic.takenFrom_append, Traffic.takenFrom_map_lane, List.append_nil]
    refine (h.fits m c hc).of_frame ?_ hlength.ge (hreceivers _)
    rw [h.registry_of_lane hold hlane]
  · rcases getElem?_set_eq_some hm with ⟨rfl, rfl⟩ | ⟨-, hm⟩
    · rw [hreceivers]
      rcases evicting_of_lane hlane hstage with hstage | ⟨d', hstage, hgone⟩
      · exact h.refused n old d e left hold hstage
      · -- What a broadcast serves was in its snapshot.
        obtain ⟨topic, initial, hfair⟩ := htraffic.fair n old hold
        have hd : d' ∈ old.deliveries :=
          List.mem_append_right _ (by rw [hstage]; exact List.mem_singleton_self d')
        have hoffers := hfair.offers_append d' (by rw [hstage]; rfl)
        have he : e ∈ d'.snapshot := by
          rw [← hoffers, hstage]
          exact List.mem_append_right _ List.mem_cons_self
        exact ⟨hknown e (hfair.known d' hd e he), hgone⟩
    · rw [hreceivers]
      exact h.refused m lane d e left hm hstage

/-- A connection comes that has no client yet, or fails to become one. -/
private theorem connections (h : Reached moves a notes) {connections : List Connection}
    (hclients : ({ a with connections } : Audience).client? = a.client?) :
    Reached moves { a with connections } notes := by
  have hknows : ({ a with connections } : Audience).Knows = a.Knows := by
    unfold Knows
    rw [hclients]
  refine ⟨?_, ?_, ?_, ?_, ?_⟩
  · rw [hknows]
    exact h.traffic
  · rw [hclients]
    exact h.fits
  · rw [hclients]
    exact h.apart
  · rw [hclients]
    exact h.named
  · rw [hknows]
    exact h.refused

theorem mono (h : Reached moves a notes) (later : List Move) :
    Reached (moves ++ later) a notes :=
  { h with
    named := by
      intro n c hc
      rw [idsOf, List.filterMap_append]
      exact List.mem_append_left _ (h.named n c hc) }

/-- A client is welcomed: nobody had its id, and its channel is new. -/
private theorem welcome (h : Reached moves a notes) {id : String} {now : Int}
    (hgreeting : a.connections[n]? = some .greeting) (hid : id ∉ idsOf moves) :
    Reached (moves ++ [.welcome n id now]) (a.put (Client.welcome a.hub id now).hub n
      (.served (Client.welcome a.hub id now).client)) notes := by
  obtain ⟨steps, htraffic, hknown⟩ := h.traffic
  have hmove : Change a (.welcome n id now) _ _ := .welcome hgreeting
  have hself := client?_put_self hgreeting (Client.welcome a.hub id now).hub
    (Client.welcome a.hub id now).client
  have hnew : ∀ m c, a.client? m = some c →
      c.endpoint.id ≠ id ∧ c.endpoint.channel < a.hub.channels.length := fun m c hc =>
    ⟨fun heq => hid (heq ▸ h.named m c hc), (h.fits m c hc).channel_lt⟩
  refine ⟨⟨steps ++ [.openChannel] ++ [.add ⟨id, a.hub.channels.length⟩], ?_, fun f hf => ?_⟩,
    fun m c hc => ?_, fun m m' c d hc hd hne => ?_, fun m c hc => ?_,
    fun m lane d f left hlane hstage => ?_⟩
  · have hopen : Traffic.Reached (steps ++ [.openChannel]) _ (notes ++ []) := htraffic.step rfl
    have hadd : Traffic.Reached (steps ++ [.openChannel] ++ [.add ⟨id, a.hub.channels.length⟩]) _
        (notes ++ [] ++ []) := hopen.step (if_pos (by simp))
    rwa [List.append_nil, List.append_nil] at hadd
  · rw [Traffic.added_append, Traffic.added_append] at hf
    rcases List.mem_append.mp hf with hf | hf
    · rw [show Traffic.added [.openChannel] = [] from rfl, List.append_nil] at hf
      exact (hknown f hf).of_change hmove
    · obtain rfl := List.mem_singleton.mp hf
      exact ⟨n, _, hself, rfl⟩
  · rcases client?_put hc with ⟨rfl, hserved⟩ | ⟨-, hm⟩
    · obtain rfl := Connection.served.inj hserved
      have hfresh := htraffic.accounts.fresh a.hub.channels.length
        (List.getElem?_eq_none (Nat.le_refl _))
      have hfits := Client.fits_welcome a.hub id now
      rwa [← hfresh.2] at hfits
    · obtain ⟨hne, hlt⟩ := hnew m c hm
      refine (h.fits m c hm).of_frame ?_ ?_ (Hub.isConnected_join hlt)
      · refine (Registry.mem_snapshot_add_iff (h.id_free hid)).trans (or_iff_right ?_)
        exact fun heq => hne (congrArg Endpoint.id heq)
      · simp [put, Client.welcome, Hub.join]
  · rcases client?_put hc with ⟨rfl, hserved⟩ | ⟨-, hm⟩
    · obtain rfl := Connection.served.inj hserved
      rcases client?_put hd with ⟨rfl, -⟩ | ⟨-, hm'⟩
      · exact absurd rfl hne
      · exact ⟨(hnew m' d hm').1.symm, (Nat.ne_of_lt (hnew m' d hm').2).symm⟩
    · rcases client?_put hd with ⟨rfl, hserved⟩ | ⟨-, hm'⟩
      · obtain rfl := Connection.served.inj hserved
        exact ⟨(hnew m c hm).1, Nat.ne_of_lt (hnew m c hm).2⟩
      · exact h.apart m m' c d hm hm' hne
  · rw [idsOf, List.filterMap_append]
    rcases client?_put hc with ⟨rfl, hserved⟩ | ⟨-, hm⟩
    · obtain rfl := Connection.served.inj hserved
      exact List.mem_append_right _ List.mem_cons_self
    · exact List.mem_append_left _ (h.named m c hm)
  · obtain ⟨hknows, hgone⟩ := h.refused m lane d f left hlane hstage
    obtain ⟨k, c, hc, rfl⟩ := hknows
    exact ⟨Knows.of_change ⟨k, c, hc, rfl⟩ hmove,
      (Hub.isConnected_join (hnew k c hc).2).trans hgone⟩

private theorem takenFrom_map_taken (channel other : Nat) (frames : List Frame) :
    Traffic.takenFrom channel (frames.map (.taken other)) =
      if other = channel then frames else [] := by
  induction frames with
  | nil => exact (ite_self _).symm
  | cons frame rest ih =>
    have hcons : (frame :: rest).map (Traffic.Note.taken other) =
        [.taken other frame] ++ rest.map (.taken other) := rfl
    rw [hcons, Traffic.takenFrom_append, Traffic.takenFrom_taken, ih]
    split <;> rfl

/-- What happens to a client is traffic: its registration ends, or it takes a frame or hangs up. -/
private theorem traffic_of_client {steps : List Traffic.Move} {t : Traffic} {c' : Client}
    {happening : Client.Happening} {hub : Hub} {frames : List Frame}
    (h : Traffic.Reached steps t notes)
    (hfits : c.Fits t.hub (Traffic.takenFrom c.endpoint.channel notes))
    (hchange : c.Change t.hub happening hub c' frames) :
    ∃ more, Traffic.added more = [] ∧ Traffic.Reached (steps ++ more) { t with hub }
      (notes ++ frames.map (.taken c.endpoint.channel)) := by
  have hremove : ∃ more, Traffic.added more = [] ∧ Traffic.Reached (steps ++ more)
      { t with hub := t.hub.leave c.endpoint.id } (notes ++ []) :=
    ⟨[.remove c.endpoint.id], rfl, h.step rfl⟩
  have hrest : ∃ more, Traffic.added more = [] ∧ Traffic.Reached (steps ++ more) t
      (notes ++ []) := by
    refine ⟨[], rfl, ?_⟩
    rwa [List.append_nil, List.append_nil]
  cases hchange with
  | leave => exact hremove
  | fail => exact hremove
  | @take frame rest receiving hidle hchannel =>
    have hthere : receiving = true := by
      have hconnected := hfits.connected_iff.mpr (by simp [hidle])
      rw [Hub.isConnected, hchannel] at hconnected
      exact hconnected
    refine ⟨[.take c.endpoint.channel], rfl, h.step ?_⟩
    rw [Traffic.machine, hchannel, hthere]
    rfl
  | close => exact ⟨[.hangUp c.endpoint.channel], rfl, h.step rfl⟩
  | _ => exact hrest

/-- Something happens to a client, and the others are not concerned. -/
private theorem client (h : Reached moves a notes) {c' : Client} {happening : Client.Happening}
    {hub : Hub} {frames : List Frame} (hclient : a.client? n = some c)
    (hchange : c.Change a.hub happening hub c' frames) :
    Reached moves (a.put hub n (.served c'))
      (notes ++ frames.map (.taken c.endpoint.channel)) := by
  obtain ⟨steps, htraffic, hknown⟩ := h.traffic
  have hfits := h.fits n c hclient
  have hmove := Change.client hclient hchange
  obtain ⟨more, hadded, htraffic'⟩ := traffic_of_client htraffic hfits hchange
  have heq := hchange.endpoint_eq
  have hold {m : Nat} {d : Client} (hd : (a.put hub n (.served c')).client? m = some d) :
      ∃ d', a.client? m = some d' ∧ d'.endpoint = d.endpoint := by
    rcases client?_put hd with ⟨rfl, hserved⟩ | ⟨-, hd⟩
    · obtain rfl := Connection.served.inj hserved
      exact ⟨c, hclient, heq.symm⟩
    · exact ⟨d, hd, rfl⟩
  refine ⟨⟨steps ++ more, htraffic', fun e he => ?_⟩, fun m d hd => ?_,
    fun m m' d d' hd hd' hne => ?_, fun m d hd => ?_, fun m lane d e left hlane hstage => ?_⟩
  · rw [Traffic.added_append, hadded, List.append_nil] at he
    exact (hknown e he).of_change hmove
  · rw [Traffic.takenFrom_append, takenFrom_map_taken]
    rcases client?_put hd with ⟨rfl, hserved⟩ | ⟨hne, hd⟩
    · obtain rfl := Connection.served.inj hserved
      rw [heq, if_pos rfl]
      exact hfits.change h.sorted hchange
    · obtain ⟨hid, hchannel⟩ := h.apart m n d c hd hclient hne
      rw [if_neg hchannel.symm, List.append_nil]
      exact (h.fits m d hd).of_frame (hchange.registered_iff hid) hchange.length_channels.ge
        (hchange.connected_eq hchannel)
  · obtain ⟨e, he, heq⟩ := hold hd
    obtain ⟨e', he', heq'⟩ := hold hd'
    rw [← heq, ← heq']
    exact h.apart m m' e e' he he' hne
  · obtain ⟨e, he, heq⟩ := hold hd
    rw [← heq]
    exact h.named m e he
  · obtain ⟨hknows, hgone⟩ := h.refused m lane d e left hlane hstage
    exact ⟨hknows.of_change hmove, hchange.not_connected hgone⟩

/-- Each move keeps what holds of the audience, if the ids are distinct. -/
theorem step (h : Reached moves a notes) (hids : (idsOf (moves ++ [move])).Nodup)
    (hstep : machine a move = some (b, more)) : Reached (moves ++ [move]) b (notes ++ more) := by
  cases change_of_machine hstep with
  | launch =>
    rw [List.append_nil]
    exact (h.launch _ _ _).mono _
  | lane hold hlane => exact (h.lane hold hlane).mono _
  | connect =>
    rw [List.append_nil]
    exact (h.connections (funext fun n => client?_connect a n)).mono _
  | @turnAway n hgreeting =>
    rw [List.append_nil]
    exact (h.connections (client?_turnAway hgreeting)).mono _
  | @welcome n id now hgreeting =>
    rw [List.append_nil]
    exact h.welcome hgreeting (notMem_idsOf hids)
  | client hclient hchange => exact (h.client hclient hchange).mono _

end Reached

theorem reached_of_run (h : machine.run start moves = some (a, notes))
    (hids : (idsOf moves).Nodup) : Reached moves a notes := by
  refine Machine.run_induction (motive := fun moves a notes =>
    (idsOf moves).Nodup → Reached moves a notes) (fun _ => reached_start) ?_ h hids
  intro moves a notes move b more hrun hreached hstep hids
  refine Reached.step (hreached ?_) hids hstep
  rw [idsOf, List.filterMap_append] at hids
  exact (List.nodup_append.mp hids).1

/-- Whatever happens later, a client keeps its endpoint and is not served again when it has not
been any more. -/
theorem client?_of_run (hc : a.client? n = some c) (h : machine.run a later = some (b, more)) :
    ∃ c', b.client? n = some c' ∧ c'.endpoint = c.endpoint ∧
      (c'.isLive = true → c.isLive = true) := by
  refine Machine.run_induction (motive := fun _ b _ => ∃ c', b.client? n = some c' ∧
    c'.endpoint = c.endpoint ∧ (c'.isLive = true → c.isLive = true)) ⟨c, hc, rfl, id⟩ ?_ h
  rintro moves t notes move u more - ⟨d, hd, heq, hlive⟩ hstep
  obtain ⟨d', hd', heq', hlive'⟩ := client?_of_change (change_of_machine hstep) hd
  exact ⟨d', hd', heq'.trans heq, fun h => hlive (hlive' h)⟩

end Audience

end FeedRelay
