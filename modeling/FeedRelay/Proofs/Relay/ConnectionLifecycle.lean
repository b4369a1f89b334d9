import FeedRelay.Proofs.Relay.Audience

/-!
# The life of a connection

An id is registered at one moment of a run at most, when the handshake of a connection is done
(`Audience.Registers`). A broadcast serves what the registry held when it looked
(`Audience.Looked`); an endpoint that refuses its frame has been dropped since. The main result
puts together what a connection does to the registry and what its client is written
(`Audience.connection_lifecycle`).
-/

namespace FeedRelay.Audience

variable {a b s : Audience} {move : Move} {moves before later : List Move}
  {notes more : List Traffic.Note} {n : Nat} {d : Delivery} {e : Endpoint} {id : String}

/-- An id comes to be registered by a move that is made in `s` when `before` has been done. -/
def Registers (moves before : List Move) (s : Audience) (move : Move) (id : String) : Prop :=
  ∃ after seen t more, moves = before ++ move :: after ∧
    machine.run start before = some (s, seen) ∧ machine s move = some (t, more) ∧
    s.hub.registry.contains id = false ∧ t.hub.registry.contains id = true

/-- The broadcast `d` of lane `n` took what the registry held at some moment of the run, when the
handler had been called with its message, as its snapshot, in some order. -/
def Looked (moves : List Move) (n : Nat) (d : Delivery) : Prop :=
  ∃ before after s seen lane, moves = before ++ .lane n (.look d.snapshot) :: after ∧
    machine.run start before = some (s, seen) ∧ s.lanes[n]? = some lane ∧
    lane.stage = .called d.message ∧ d.snapshot.Perm s.hub.registry.snapshot

theorem Looked.mono (h : Looked moves n d) (later : List Move) : Looked (moves ++ later) n d := by
  obtain ⟨before, after, s, seen, lane, rfl, hrest⟩ := h
  exact ⟨before, after ++ later, s, seen, lane, by simp, hrest⟩

/-- The snapshot of a broadcast is what the registry held when it looked. -/
theorem looked_of_run (h : machine.run start moves = some (a, notes)) :
    ∀ (n : Nat) (lane : Lane), a.lanes[n]? = some lane → ∀ d ∈ lane.deliveries,
      Looked moves n d := by
  refine Machine.run_induction (motive := fun moves a _ => ∀ (n : Nat) (lane : Lane),
    a.lanes[n]? = some lane → ∀ d ∈ lane.deliveries, Looked moves n d)
    (fun n lane hlane => by cases hlane) ?_ h
  intro moves a notes move b more hrun hlooked hstep m lane hm d hd
  cases change_of_machine hstep with
  | launch =>
    rcases getElem?_concat_eq_some.mp hm with hm | ⟨-, rfl⟩
    · exact (hlooked m lane hm d hd).mono _
    · cases hd
  | @lane n own old new hub seen hold hlane =>
    rcases getElem?_set_eq_some hm with ⟨rfl, rfl⟩ | ⟨-, hm⟩
    · rcases Lane.mem_deliveries_of_machine hlane hd with hd | ⟨rfl, hstage, hsnapshot, -⟩ |
        ⟨d', e, left, rfl, hstage, rfl⟩
      · exact (hlooked n old hold d hd).mono _
      · exact ⟨moves, [], a, notes, old, rfl, hrun, hold, hstage, hsnapshot⟩
      · have hd' : d' ∈ old.deliveries :=
          List.mem_append_right _ (by rw [hstage]; exact List.mem_singleton_self d')
        exact (hlooked n old hold d' hd').mono _
    · exact (hlooked m lane hm d hd).mono _
  | _ => exact (hlooked m lane hm d hd).mono _

/-- A move changes the registration of no endpoint but that of its own connection. -/
theorem Reached.registered_iff (h : Reached moves a notes)
    (hstep : machine a move = some (b, more)) (hids : (idsOf (moves ++ [move])).Nodup)
    (e : Endpoint) :
    (e ∈ b.hub.registry.snapshot ↔ e ∈ a.hub.registry.snapshot) ∨
      ∃ n c, move.connection? = some n ∧ b.client? n = some c ∧ c.endpoint = e := by
  have hnext := h.step hids hstep
  cases change_of_machine hstep with
  | lane hold hlane => exact Or.inl (by rw [h.registry_of_lane hold hlane])
  | @welcome n id now hgreeting =>
    have hself := client?_put_self hgreeting (Client.welcome a.hub id now).hub
      (Client.welcome a.hub id now).client
    by_cases he : e = (Client.welcome a.hub id now).client.endpoint
    · exact Or.inr ⟨n, _, rfl, hself, he.symm⟩
    · refine Or.inl ((Registry.mem_snapshot_add_iff ?_).trans (or_iff_right he))
      exact h.id_free (notMem_idsOf hids)
  | @client n c c' happening hub frames hclient hchange =>
    have hself := client?_put_self (client?_eq_some.mp hclient) hub c'
    by_cases hid : e.id = c.endpoint.id
    · by_cases he : e = c.endpoint
      · exact Or.inr ⟨n, c', rfl, hself, hchange.endpoint_eq.trans he.symm⟩
      · refine Or.inl (iff_of_false (fun hmem => he ?_) fun hmem => he ?_)
        · rw [← hchange.endpoint_eq] at hid ⊢
          exact hnext.eq_of_id_eq hself (hnext.knows hmem) hid
        · exact h.eq_of_id_eq hclient (h.knows hmem) hid
    · exact Or.inl (hchange.registered_iff hid)
  | _ => exact Or.inl Iff.rfl

/-- An id comes to be registered when a client is welcomed under it. -/
private theorem welcome_of_registers (h : Registers moves before s move id)
    (hids : (idsOf moves).Nodup) :
    ∃ n now, move = .welcome n id now ∧ s.connections[n]? = some .greeting := by
  obtain ⟨after, seen, t, more, rfl, hrun, hstep, hbefore, hafter⟩ := h
  have hids' : (idsOf before).Nodup := by
    rw [idsOf, List.filterMap_append] at hids
    exact (List.nodup_append.mp hids).1
  have hreached := reached_of_run hrun hids'
  obtain ⟨e, he, rfl⟩ := Registry.contains_eq_true_iff.mp hafter
  have hnew : e ∉ s.hub.registry.snapshot := fun hmem =>
    ne_true_of_eq_false hbefore (Registry.contains_eq_true_iff.mpr ⟨e, hmem, rfl⟩)
  cases change_of_machine hstep with
  | lane hold hlane =>
    have hregistry := hreached.registry_of_lane hold hlane
    exact absurd (hregistry ▸ he) hnew
  | @welcome n id now hgreeting =>
    rcases Registry.mem_snapshot_add he with rfl | he
    · exact ⟨n, now, rfl, hgreeting⟩
    · exact absurd he hnew
  | client hclient hchange => exact absurd (hchange.mem_of_mem he) hnew
  | _ => exact absurd he hnew

/-- A move that welcomes a client is made once. -/
private theorem before_eq {before' after after' : List Move} {move' : Move}
    (hids : (idsOf (before ++ move :: after)).Nodup)
    (heq : before ++ move :: after = before' ++ move' :: after') (hmove : move.id? = some id)
    (hmove' : move'.id? = some id) : before = before' := by
  have hlater {first rest : List Move} {m : Move} (hids : (idsOf (first ++ m :: rest)).Nodup)
      (hm : m.id? = some id) : ∀ m' ∈ rest, m'.id? ≠ some id := by
    intro m' hmem hid
    rw [idsOf, List.filterMap_append, List.filterMap_cons_some hm] at hids
    have hrest := (List.nodup_append.mp hids).2.1
    exact (List.nodup_cons.mp hrest).1 (List.mem_filterMap.mpr ⟨m', hmem, hid⟩)
  rcases List.append_eq_append_iff.mp heq with ⟨x, rfl, hx⟩ | ⟨x, rfl, hx⟩
  · cases x with
    | nil => exact (List.append_nil _).symm
    | cons m y =>
      obtain ⟨-, rfl⟩ := List.cons.inj hx
      exact absurd hmove' (hlater hids hmove move' (by simp))
  · cases x with
    | nil => exact List.append_nil _
    | cons m y =>
      rw [heq] at hids
      obtain ⟨-, rfl⟩ := List.cons.inj hx
      exact absurd hmove (hlater hids hmove' move (by simp))

/-- **The life of a connection.** In every run of the audience in which clients are welcomed under
distinct ids:
* An id comes to be registered at one moment at most, and this is when the handshake of a
  connection is done.
* The client of a connection is registered while it is read from and written to. What it has been
  written is a beginning of what was queued on its channel. When it is not read from or not written
  to any more, its id is not registered then or at any later moment.
* Every registered endpoint is that of a connection, and its receiver is there.
* An endpoint that a broadcast is about to serve was registered when the broadcast looked. If its
  receiver is gone, so that it will refuse the frame, it is not registered any more.
* The next move changes the registration of no endpoint but that of its own connection. -/
theorem connection_lifecycle (h : machine.run start moves = some (a, notes))
    (hids : (idsOf moves).Nodup) :
    (∀ before s move id, Registers moves before s move id →
      (∃ n now, move = .welcome n id now ∧ s.connections[n]? = some .greeting) ∧
      ∀ before' s' move', Registers moves before' s' move' id → before = before') ∧
    (∀ n c, a.client? n = some c →
      (c.endpoint ∈ a.hub.registry.snapshot ↔ c.isLive = true) ∧
      c.written <+: Traffic.queuedOn c.endpoint.channel notes ∧
      (c.isLive = false → ∀ later b more, machine.run a later = some (b, more) →
        (idsOf (moves ++ later)).Nodup → b.hub.registry.contains c.endpoint.id = false)) ∧
    (∀ e ∈ a.hub.registry.snapshot,
      a.hub.isConnected e = true ∧ ∃ n c, a.client? n = some c ∧ c.endpoint = e) ∧
    (∀ (n : Nat) (lane : Lane) (d : Delivery) (e : Endpoint) (left : List Endpoint),
      a.lanes[n]? = some lane → lane.stage = .serving d (e :: left) →
        Looked moves n d ∧ e ∈ d.snapshot ∧
        (a.hub.isConnected e = false → e ∉ a.hub.registry.snapshot)) ∧
    ∀ move b more, machine a move = some (b, more) → (idsOf (moves ++ [move])).Nodup →
      ∀ e, (e ∈ b.hub.registry.snapshot ↔ e ∈ a.hub.registry.snapshot) ∨
        ∃ n c, move.connection? = some n ∧ b.client? n = some c ∧ c.endpoint = e := by
  have hreached := reached_of_run h hids
  obtain ⟨steps, htraffic, -⟩ := hreached.traffic
  refine ⟨fun before s move id hregisters => ?_, fun n c hc =>
    ⟨(hreached.fits n c hc).registered_iff,
      (hreached.fits n c hc).written_begins.trans (htraffic.accounts.begins _), ?_⟩,
    fun e he => ⟨hreached.connected he, hreached.knows he⟩, ?_, ?_⟩
  · obtain ⟨n, now, rfl, hgreeting⟩ := welcome_of_registers hregisters hids
    refine ⟨⟨n, now, rfl, hgreeting⟩, fun before' s' move' hregisters' => ?_⟩
    obtain ⟨n', now', rfl, -⟩ := welcome_of_registers hregisters' hids
    obtain ⟨after, seen, t, more, rfl, -⟩ := hregisters
    obtain ⟨after', seen', t', more', heq, -⟩ := hregisters'
    exact before_eq hids heq rfl rfl
  · intro hlive later b more hlater hids'
    obtain ⟨c', hc', heq, hmono⟩ := client?_of_run hc hlater
    have hlast := reached_of_run (machine.run_append h hlater) hids'
    rw [← heq, ← Bool.not_eq_true, Registry.contains_eq_true_iff]
    rintro ⟨f, hf, hid⟩
    have hmem : c'.endpoint ∈ b.hub.registry.snapshot :=
      hlast.eq_of_id_eq hc' (hlast.knows hf) hid ▸ hf
    rw [hmono ((hlast.fits n c' hc').registered_iff.mp hmem)] at hlive
    cases hlive
  · intro n lane d e left hlane hstage
    have hd : d ∈ lane.deliveries :=
      List.mem_append_right _ (by rw [hstage]; exact List.mem_singleton_self d)
    obtain ⟨topic, initial, hfair⟩ := htraffic.fair n lane hlane
    have hoffers := hfair.offers_append d (by rw [hstage]; rfl)
    have he : e ∈ d.snapshot := by
      rw [← hoffers, hstage]
      exact List.mem_append_right _ List.mem_cons_self
    refine ⟨looked_of_run h n lane hlane d hd, he, fun hgone hmem => ?_⟩
    rw [hreached.connected hmem] at hgone
    cases hgone
  · exact fun move b more hstep hids' e => hreached.registered_iff hstep hids' e

/-- What may happen to two clients, of which the second cannot be written to any more when the
broadcast of a second message has looked, and to a connection whose handshake fails. -/
def visit : List Move :=
  [.connect, .connect, .connect, .welcome 1 "y" 10, .turnAway 2, .welcome 0 "x" 20,
    .launch ⟨"a", none, none, []⟩ (.exponential (.ofMilliseconds 500) (.ofMilliseconds 8000))
      (some Topic.belowSlashed),
    .lane 0 (.feed (.arrive (.frame (.binary [1])))),
    .lane 0 (.feed (.arrive (.frame (.binary [2])))),
    .lane 0 (.feed (.occur .event)),
    .lane 0 (.feed (.occur (.signal (.frame (.binary [1]))))),
    .lane 0 (.feed (.occur .event)), .lane 0 (.look [⟨"y", 0⟩, ⟨"x", 1⟩]), .lane 0 .offer,
    .lane 0 .offer, .lane 0 .finish, .client 0 .taken, .client 1 .taken,
    .lane 0 (.feed (.occur (.signal (.frame (.binary [2]))))), .client 0 .written,
    .lane 0 (.feed (.occur .event)), .lane 0 (.look [⟨"x", 1⟩, ⟨"y", 0⟩]),
    .client 1 (.refused "gone"), .client 1 .closed, .lane 0 .offer]

/-- The first client is still served; the second was registered when the second broadcast looked,
and is not when its turn comes. -/
theorem registered_of_visit :
    (idsOf visit).Nodup ∧ ∃ a notes, machine.run start visit = some (a, notes) ∧
      (∃ c, a.client? 0 = some c ∧ c.written = [.binary [1]] ∧
        c.endpoint ∈ a.hub.registry.snapshot ∧
        c.written <+: Traffic.queuedOn c.endpoint.channel notes) ∧
      ∃ lane d, a.lanes[0]? = some lane ∧ lane.stage = .serving d [⟨"y", 0⟩] ∧
        Looked visit 0 d ∧ ⟨"y", 0⟩ ∈ d.snapshot ∧ ⟨"y", 0⟩ ∉ a.hub.registry.snapshot := by
  have hids : (idsOf visit).Nodup := by decide
  have hrun : (machine.run start visit).map (fun (a, _) =>
      (a.client? 0, a.hub.isConnected ⟨"y", 0⟩,
        a.lanes[0]?.map fun (lane : Lane) => (lane.stage.left, lane.stage.held))) =
      some (some ⟨⟨"x", 1⟩, 20, true, .idle, [.binary [1]]⟩, false,
        some ([⟨"y", 0⟩], [⟨"y", 0⟩])) := by
    decide +kernel
  obtain ⟨⟨a, notes⟩, hrun, hseen⟩ := Option.map_eq_some_iff.mp hrun
  obtain ⟨hclient, hseen⟩ := Prod.mk.inj hseen
  obtain ⟨hgone, hlane⟩ := Prod.mk.inj hseen
  obtain ⟨lane, hlane, hstage⟩ := Option.map_eq_some_iff.mp hlane
  obtain ⟨hleft, hheld⟩ := Prod.mk.inj hstage
  obtain ⟨-, hclients, -, hserving, -⟩ := connection_lifecycle hrun hids
  obtain ⟨hregistered, hwritten, -⟩ := hclients 0 _ hclient
  have hstage : ∃ d, lane.stage = .serving d [⟨"y", 0⟩] := by
    cases hstage : lane.stage with
    | serving d left =>
      rw [hstage] at hleft
      exact ⟨d, by rw [← hleft]; rfl⟩
    | evicting d refused left =>
      rw [hstage] at hleft hheld
      cases hleft
      cases hheld
    | _ =>
      rw [hstage] at hleft
      cases hleft
  obtain ⟨d, hstage⟩ := hstage
  obtain ⟨hlooked, hsnapshot, hdropped⟩ := hserving 0 lane d _ _ hlane hstage
  exact ⟨hids, a, notes, hrun, ⟨_, hclient, rfl, hregistered.mpr rfl, hwritten⟩, lane, d, hlane,
    hstage, hlooked, hsnapshot, hdropped hgone⟩

end FeedRelay.Audience
