import FeedRelay.Proofs.Relay.Traffic

/-!
# The order of a walk

A broadcast walks through the endpoints of its snapshot in some order. If nothing else happens to
the hub, it makes the same of each endpoint whatever came before: what it has done is told by the
hub that it began with and by the endpoints that it has served (`Broadcast.Served`). So the order of
the walk shows nowhere but in the order of the endpoints that failed (`Broadcast.Served.unique`).
-/

namespace FeedRelay

/-- A channel with copies of a frame behind the frames that wait. -/
def Channel.withCopies (channel : Channel) (copies : Nat) (frame : Frame) : Channel :=
  { channel with queue := channel.queue ++ List.replicate copies frame }

namespace Broadcast

variable {hub hub' hub'' : Hub} {message : Message} {served others : List Endpoint} {e : Endpoint}
  {report report' : DeliveryReport} {b : Broadcast}

/-- What a broadcast that began with `hub` has done when it has served some endpoints: those whose
receivers are there have the frame, the others have failed and are not registered any more. -/
structure Served (hub : Hub) (message : Message) (served : List Endpoint) (hub' : Hub)
    (report : DeliveryReport) : Prop where
  delivered_eq : report.delivered = served.countP hub.isConnected
  failed_eq : report.failed = (served.filter (!hub.isConnected ·)).map (·.id)
  registry_eq : hub'.registry = ⟨hub.registry.endpoints.filter (·.id ∉ report.failed)⟩
  channel_eq : ∀ c, hub'.channel? c = (hub.channel? c).map
    (·.withCopies (served.countP fun e => hub.isConnected e && e.channel = c) message.toFrame)

namespace Served

theorem start (hub : Hub) (message : Message) : Served hub message [] hub ⟨0, []⟩ where
  delivered_eq := rfl
  failed_eq := rfl
  registry_eq := by
    have hall : hub.registry.endpoints.filter (·.id ∉ ([] : List String)) =
        hub.registry.endpoints := List.filter_eq_self.mpr fun e _ => by simp
    rw [hall]
  channel_eq c := by simp [Channel.withCopies]

/-- What a broadcast does leaves every receiver where it is. -/
theorem isConnected_eq (h : Served hub message served hub' report) (e : Endpoint) :
    hub'.isConnected e = hub.isConnected e := by
  rw [Hub.isConnected, h.channel_eq, Hub.isConnected]
  cases hub.channel? e.channel <;> rfl

/-- An endpoint whose receiver is there is served. -/
theorem take (h : Served hub message served hub' report) (halive : hub'.isConnected e = true) :
    Served hub message (served ++ [e]) (hub'.push e.channel message.toFrame)
      { report with delivered := report.delivered + 1 } := by
  rw [h.isConnected_eq] at halive
  refine ⟨?_, ?_, h.registry_eq, fun c => ?_⟩
  · rw [List.countP_append, ← h.delivered_eq]
    simp [halive]
  · rw [List.filter_append, List.map_append, ← h.failed_eq]
    simp [halive]
  · rw [Hub.push, Hub.Accounts.channel?_modifyChannel, h.channel_eq, List.countP_append]
    by_cases hc : e.channel = c
    · rw [if_pos hc, Option.map_map]
      refine congrArg (Option.map · _) (funext fun channel => ?_)
      have hone : [e].countP (fun e => hub.isConnected e && e.channel = c) = 1 := by
        simp [halive, hc]
      simp [Channel.withCopies, hone, List.replicate_add]
    · have hnone : [e].countP (fun e => hub.isConnected e && e.channel = c) = 0 := by
        simp [hc]
      rw [if_neg hc, hnone, Nat.add_zero]

/-- An endpoint whose receiver is gone is dropped. -/
theorem refuse (h : Served hub message served hub' report) (hgone : hub'.isConnected e = false) :
    Served hub message (served ++ [e]) (hub'.leave e.id)
      { report with failed := report.failed ++ [e.id] } := by
  rw [h.isConnected_eq] at hgone
  refine ⟨?_, ?_, ?_, fun c => ?_⟩
  · rw [List.countP_append, ← h.delivered_eq]
    simp [hgone]
  · rw [List.filter_append, List.map_append, ← h.failed_eq]
    simp [hgone]
  · rw [Hub.leave, h.registry_eq, Registry.remove, List.filter_filter]
    refine congrArg Registry.mk (List.filter_congr fun f _ => ?_)
    simp [not_or, Bool.and_comm]
  · have hnone : [e].countP (fun e => hub.isConnected e && e.channel = c) = 0 := by
      simp [hgone]
    rw [List.countP_append, hnone, Nat.add_zero]
    exact h.channel_eq c

theorem foldl (h : Served hub message served b.hub b.report) (rest : List Endpoint) :
    Served hub message (served ++ rest) (rest.foldl (visit message) b).hub
      (rest.foldl (visit message) b).report := by
  induction rest generalizing served b with
  | nil =>
    rw [List.append_nil]
    exact h
  | cons e rest ih =>
    have hnext : Served hub message (served ++ [e]) (b.visit message e).hub
        (b.visit message e).report := by
      cases halive : b.hub.isConnected e with
      | true =>
        obtain ⟨hhub, hreport⟩ := visit_of_isConnected message halive
        rw [hhub, hreport]
        exact h.take halive
      | false =>
        obtain ⟨hhub, hreport⟩ := visit_of_not_isConnected message halive
        rw [hhub, hreport]
        exact h.refuse halive
    have hrest := ih hnext
    rw [List.append_assoc] at hrest
    exact hrest

/-- What was done to endpoints does not depend on their order. -/
theorem unique (h : Served hub message served hub' report)
    (hothers : Served hub message others hub'' report') (hperm : served.Perm others) :
    hub' = hub'' ∧ report.delivered = report'.delivered ∧ report.failed.Perm report'.failed := by
  have hfailed : report.failed.Perm report'.failed := by
    rw [h.failed_eq, hothers.failed_eq]
    exact (hperm.filter _).map _
  have hregistry : hub'.registry = hub''.registry := by
    rw [h.registry_eq, hothers.registry_eq]
    refine congrArg Registry.mk (List.filter_congr fun f _ => ?_)
    simp only [hfailed.mem_iff]
  have hchannels : hub'.channels = hub''.channels := by
    refine List.ext_getElem? fun c => ?_
    have hcount := hperm.countP_eq fun e => hub.isConnected e && e.channel = c
    change hub'.channel? c = hub''.channel? c
    rw [h.channel_eq, hothers.channel_eq, hcount]
  refine ⟨?_, by rw [h.delivered_eq, hothers.delivered_eq, hperm.countP_eq], hfailed⟩
  obtain ⟨registry, channels⟩ := hub'
  exact congr (congrArg Hub.mk hregistry) hchannels

end Served

/-- What a whole broadcast does. -/
theorem served_serve (message : Message) (endpoints : List Endpoint) (hub : Hub) :
    Served hub message endpoints (serve message endpoints hub).hub
      (serve message endpoints hub).report := by
  obtain ⟨hhub, hreport⟩ := conclude_eq message (endpoints.foldl (visit message) (.start hub))
  rw [serve, hhub, hreport]
  exact (Served.start hub message).foldl (b := .start hub) endpoints

end Broadcast

end FeedRelay
