import FeedRelay.Proofs.Relay.Traffic
import FeedRelay.Relay.Client

/-!
# The steps of a client

What can happen to a client that is served, step by step (`Client.Change`). Its writing loop is
open until a write fails or nothing more can come; its reading loop goes on until the client
closes or is gone. Neither loop starts again.
-/

namespace FeedRelay

namespace Hub

variable {hub : Hub} {e : Endpoint} {n : Nat} {f : Channel → Channel}

/-- A change of what waits in a channel keeps its receiver. -/
theorem isConnected_modifyChannel (hf : ∀ channel, (f channel).receiving = channel.receiving) :
    (hub.modifyChannel n f).isConnected e = hub.isConnected e := by
  rw [isConnected, Accounts.channel?_modifyChannel, isConnected]
  split
  · cases hub.channel? e.channel with
    | none => rfl
    | some channel => exact hf channel
  · rfl

theorem isConnected_push (channel : Nat) (frame : Frame) :
    (hub.push channel frame).isConnected e = hub.isConnected e :=
  isConnected_modifyChannel fun _ => rfl

theorem isConnected_hangUp_of_ne (h : n ≠ e.channel) :
    (hub.hangUp n).isConnected e = hub.isConnected e := by
  rw [isConnected, hangUp, Accounts.channel?_modifyChannel, if_neg h, isConnected]

theorem isConnected_hangUp_self : (hub.hangUp e.channel).isConnected e = false := by
  rw [isConnected, hangUp, Accounts.channel?_modifyChannel, if_pos rfl]
  cases hub.channel? e.channel <;> rfl

theorem isConnected_join {id : String} (h : e.channel < hub.channels.length) :
    (hub.join id).1.isConnected e = hub.isConnected e := by
  rw [isConnected, channel?, join, List.getElem?_append_left h, isConnected, channel?]

theorem length_modifyChannel (hub : Hub) (n : Nat) (f : Channel → Channel) :
    (hub.modifyChannel n f).channels.length = hub.channels.length :=
  List.length_modify ..

end Hub

namespace Client

namespace Writing

/-- Whether the writing loop goes on to write. -/
def isOpen : Writing → Bool
  | .idle | .busy _ => true
  | .closing | .ended => false

/-- The frame that is being written. -/
def hand : Writing → List Frame
  | .busy frame => [frame]
  | _ => []

end Writing

/-- Whether a client is read from and written to. -/
def isLive (c : Client) : Bool :=
  c.reading && c.writing.isOpen

/-- What a client has taken from its channel when something has happened that leads to it. -/
def took (c : Client) : Happening → List Frame
  | .taken => c.writing.hand
  | _ => []

/-- All that can happen to a client, with the hub it leads to and what is taken from the
channel. -/
inductive Change (hub : Hub) (c : Client) : Happening → Hub → Client → List Frame → Prop
  | rest {frame : Frame} {now : Int} (hreading : c.reading = true) :
      Change hub c (.received frame now) hub c []
  | leave {happening : Happening} (hreading : c.reading = true) :
      Change hub c happening (hub.leave c.endpoint.id) { c with reading := false } []
  | take {frame : Frame} {rest : List Frame} {receiving : Bool} (hidle : c.writing = .idle)
      (hchannel : hub.channel? c.endpoint.channel = some ⟨receiving, frame :: rest⟩) :
      Change hub c .taken
        (hub.modifyChannel c.endpoint.channel fun channel => { channel with queue := rest })
        { c with writing := .busy frame } [frame]
  | write {frame : Frame} (hbusy : c.writing = .busy frame) :
      Change hub c .written hub { c with writing := .idle, written := c.written ++ [frame] } []
  | fail {frame : Frame} {fault : String} (hbusy : c.writing = .busy frame) :
      Change hub c (.refused fault) (hub.leave c.endpoint.id) { c with writing := .closing } []
  | drain (hidle : c.writing = .idle) (hdrained : c.isDrained hub = true) :
      Change hub c .drained hub { c with writing := .closing } []
  | close (hclosing : c.writing = .closing) :
      Change hub c .closed (hub.hangUp c.endpoint.channel) { c with writing := .ended } []

variable {hub : Hub} {c : Client} {happening : Happening} {s : ClientStep}

theorem change_of_step (h : c.step hub happening = some s) :
    Change hub c happening s.hub s.client (s.client.took happening) := by
  cases happening with
  | received frame now =>
    obtain ⟨hreading, h⟩ := Option.ite_none_right_eq_some.mp h
    obtain rfl := Option.some.inj h
    cases frame with
    | close => exact .leave hreading
    | _ => exact .rest hreading
  | gone now =>
    obtain ⟨hreading, h⟩ := Option.ite_none_right_eq_some.mp h
    obtain rfl := Option.some.inj h
    exact .leave hreading
  | taken =>
    obtain ⟨hidle, h⟩ := Option.ite_none_right_eq_some.mp h
    unfold take at h
    split at h
    · rename_i frame rest hqueue
      obtain ⟨⟨receiving, queue⟩, hchannel, rfl⟩ := Option.map_eq_some_iff.mp hqueue
      obtain rfl := Option.some.inj h
      exact .take hidle hchannel
    · cases h
  | written =>
    simp only [step] at h
    split at h
    · obtain rfl := Option.some.inj h
      exact .write ‹_›
    · cases h
  | refused fault =>
    simp only [step] at h
    split at h
    · obtain rfl := Option.some.inj h
      exact .fail ‹_›
    · cases h
  | drained =>
    obtain ⟨⟨hidle, hdrained⟩, h⟩ := Option.ite_none_right_eq_some.mp h
    obtain rfl := Option.some.inj h
    exact .drain hidle hdrained
  | closed =>
    obtain ⟨hclosing, h⟩ := Option.ite_none_right_eq_some.mp h
    obtain rfl := Option.some.inj h
    exact .close hclosing

variable {hub' : Hub} {c' : Client} {frames : List Frame}

theorem Change.endpoint_eq (h : Change hub c happening hub' c' frames) :
    c'.endpoint = c.endpoint := by
  cases h <;> rfl

/-- A client that is not served any more is not served again. -/
theorem Change.isLive_of_isLive (h : Change hub c happening hub' c' frames)
    (hlive : c'.isLive = true) : c.isLive = true := by
  cases h with
  | rest => exact hlive
  | leave hreading => cases hlive
  | take hidle =>
    rw [isLive, hidle]
    exact hlive
  | write hbusy =>
    rw [isLive, hbusy]
    exact hlive
  | _ =>
    rw [isLive, Bool.and_eq_true] at hlive
    cases hlive.2

theorem Change.length_channels (h : Change hub c happening hub' c' frames) :
    hub'.channels.length = hub.channels.length := by
  cases h with
  | take => exact Hub.length_modifyChannel hub _ _
  | close => exact Hub.length_modifyChannel hub _ _
  | _ => rfl

/-- What happens to a client does not concern the registration of another id. -/
theorem Change.registered_iff (h : Change hub c happening hub' c' frames) {e : Endpoint}
    (hid : e.id ≠ c.endpoint.id) :
    e ∈ hub'.registry.snapshot ↔ e ∈ hub.registry.snapshot := by
  have hleave : e ∈ (hub.leave c.endpoint.id).registry.snapshot ↔ e ∈ hub.registry.snapshot :=
    Registry.mem_snapshot_remove_iff.trans (and_iff_left hid)
  cases h with
  | leave => exact hleave
  | fail => exact hleave
  | _ => exact Iff.rfl

/-- A client registers nobody once it is welcomed. -/
theorem Change.mem_of_mem (h : Change hub c happening hub' c' frames) {e : Endpoint}
    (he : e ∈ hub'.registry.snapshot) : e ∈ hub.registry.snapshot := by
  cases h with
  | leave => exact Registry.mem_snapshot_remove he
  | fail => exact Registry.mem_snapshot_remove he
  | _ => exact he

/-- What happens to a client does not concern the receiver of another channel. -/
theorem Change.connected_eq (h : Change hub c happening hub' c' frames) {e : Endpoint}
    (hchannel : e.channel ≠ c.endpoint.channel) : hub'.isConnected e = hub.isConnected e := by
  cases h with
  | take =>
    refine Hub.isConnected_modifyChannel ?_
    exact fun _ => rfl
  | close => exact Hub.isConnected_hangUp_of_ne hchannel.symm
  | _ => rfl

/-- A receiver that is gone does not come back. -/
theorem Change.not_connected (h : Change hub c happening hub' c' frames) {e : Endpoint}
    (he : hub.isConnected e = false) : hub'.isConnected e = false := by
  cases h with
  | take =>
    refine (Hub.isConnected_modifyChannel ?_).trans he
    exact fun _ => rfl
  | close =>
    by_cases hchannel : c.endpoint.channel = e.channel
    · rw [hchannel]
      exact Hub.isConnected_hangUp_self
    · rw [Hub.isConnected_hangUp_of_ne hchannel]
      exact he
  | _ => exact he

/-- What holds of a client of a hub that has taken some frames from its channel: it is registered
while it is read from and written to, its receiver is there until its writing loop has ended, and
it has written what it has taken, one frame after another. -/
structure Fits (c : Client) (hub : Hub) (taken : List Frame) : Prop where
  registered_iff : c.endpoint ∈ hub.registry.snapshot ↔ c.isLive = true
  channel_lt : c.endpoint.channel < hub.channels.length
  connected_iff : hub.isConnected c.endpoint = true ↔ c.writing ≠ .ended
  taken_eq : c.writing.isOpen = true → taken = c.written ++ c.writing.hand
  written_begins : c.written <+: taken

/-- A client is welcomed with nothing taken, under an id that nobody needs to have had. -/
theorem fits_welcome (hub : Hub) (id : String) (now : Int) :
    (welcome hub id now).client.Fits (welcome hub id now).hub [] where
  registered_iff := iff_of_true (Registry.mem_insert_self _ _) rfl
  channel_lt := by simp [welcome, Hub.join]
  connected_iff := by simp [welcome, Hub.join, Hub.isConnected, Hub.channel?]
  taken_eq _ := rfl
  written_begins := List.prefix_rfl

namespace Fits

variable {taken : List Frame}

/-- A client is not concerned by what changes neither its registration nor its receiver. -/
theorem of_frame (h : c.Fits hub taken)
    (hregistered : c.endpoint ∈ hub'.registry.snapshot ↔ c.endpoint ∈ hub.registry.snapshot)
    (hchannels : hub.channels.length ≤ hub'.channels.length)
    (hconnected : hub'.isConnected c.endpoint = hub.isConnected c.endpoint) :
    c.Fits hub' taken where
  registered_iff := hregistered.trans h.registered_iff
  channel_lt := Nat.lt_of_lt_of_le h.channel_lt hchannels
  connected_iff := by rw [hconnected, h.connected_iff]
  taken_eq := h.taken_eq
  written_begins := h.written_begins

/-- A client whose registration is dropped is not served any more. -/
private theorem dropped {writing : Writing} {reading : Bool} (h : c.Fits hub taken)
    (hended : writing ≠ .ended ↔ c.writing ≠ .ended)
    (htaken : writing.isOpen = true → writing = c.writing)
    (hlive : (reading && writing.isOpen) = false) :
    ({ c with reading, writing } : Client).Fits (hub.leave c.endpoint.id) taken where
  registered_iff := by
    refine iff_of_false (fun hmem => ?_) (ne_true_of_eq_false hlive)
    exact (Registry.mem_snapshot_remove_iff.mp hmem).2 rfl
  channel_lt := h.channel_lt
  connected_iff := h.connected_iff.trans hended.symm
  taken_eq hopen := by
    obtain rfl := htaken hopen
    exact h.taken_eq hopen
  written_begins := h.written_begins

/-- Whatever happens to a client, it fits. -/
theorem change (h : c.Fits hub taken) (hsorted : hub.registry.Sorted)
    (hchange : Change hub c happening hub' c' frames) : c'.Fits hub' (taken ++ frames) := by
  cases hchange with
  | rest =>
    rw [List.append_nil]
    exact h
  | leave =>
    rw [List.append_nil]
    exact h.dropped Iff.rfl (fun _ => rfl) rfl
  | @take frame rest receiving hidle hchannel =>
    have htaken : taken = c.written := by
      rw [h.taken_eq (by rw [hidle]; rfl), hidle]
      exact List.append_nil _
    refine ⟨h.registered_iff.trans ?_, ?_, ?_, fun _ => by rw [htaken]; rfl, ?_⟩
    · simp [isLive, hidle, Writing.isOpen]
    · rw [Hub.length_modifyChannel]
      exact h.channel_lt
    · refine (Hub.isConnected_modifyChannel ?_).congr_left.trans (h.connected_iff.trans ?_)
      · exact fun _ => rfl
      · simp [hidle]
    · rw [htaken]
      exact List.prefix_append _ _
  | @write frame hbusy =>
    have htaken : taken = c.written ++ [frame] := by
      rw [h.taken_eq (by rw [hbusy]; rfl), hbusy]
      rfl
    rw [List.append_nil]
    refine ⟨h.registered_iff.trans ?_, h.channel_lt, h.connected_iff.trans ?_, fun _ => ?_, ?_⟩
    · simp [isLive, hbusy, Writing.isOpen]
    · simp [hbusy]
    · rw [htaken]
      exact (List.append_nil _).symm
    · exact ⟨[], by rw [htaken, List.append_nil]⟩
  | @fail frame fault hbusy =>
    rw [List.append_nil]
    exact h.dropped (by rw [hbusy]; simp) (by simp [Writing.isOpen]) (Bool.and_false _)
  | drain hidle hdrained =>
    -- The writing loop would wait on if the endpoint were still registered.
    have hgone : c.endpoint ∉ hub.registry.snapshot := by
      intro hmem
      rw [isDrained, hsorted.find?_eq_some hmem] at hdrained
      simp at hdrained
    rw [List.append_nil]
    refine ⟨iff_of_false hgone (by simp [isLive, Writing.isOpen]), h.channel_lt, ?_,
      by simp [Writing.isOpen], h.written_begins⟩
    exact h.connected_iff.trans (by simp [hidle])
  | close hclosing =>
    rw [List.append_nil]
    refine ⟨h.registered_iff.trans ?_, ?_, ?_, by simp [Writing.isOpen], h.written_begins⟩
    · simp [isLive, hclosing, Writing.isOpen]
    · rw [Hub.hangUp, Hub.length_modifyChannel]
      exact h.channel_lt
    · rw [Hub.isConnected_hangUp_self]
      simp

end Fits

end Client

end FeedRelay
