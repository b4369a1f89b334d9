import FeedRelay.Failure
import FeedRelay.Frame
import FeedRelay.Relay.Registry

/-!
# Endpoints and their channels

A channel queues frames until its receiving side takes them, and refuses them once the
receiving side is gone. The hub is the registry of endpoints with the channels behind it; a
channel outlives the registration of its endpoint.
-/

namespace FeedRelay

/-- A channel: the frames that wait in it, and whether anyone will take them. -/
structure Channel where
  receiving : Bool
  queue : List Frame
  deriving DecidableEq, Repr

/-- The registered endpoints and all channels made so far, each at the place of its number. -/
structure Hub where
  registry : Registry
  channels : List Channel
  deriving DecidableEq, Repr

namespace Hub

/-- No endpoints and no channels. -/
def empty : Hub := ⟨.empty, []⟩

/-- The channel of a number. -/
def channel? (hub : Hub) (number : Nat) : Option Channel :=
  hub.channels[number]?

/-- Change the channel of a number. -/
def modifyChannel (hub : Hub) (number : Nat) (f : Channel → Channel) : Hub :=
  { hub with channels := hub.channels.modify number f }

/-- Register an id with a fresh channel, whose number is the second part. -/
def join (hub : Hub) (id : String) : Hub × Nat :=
  let number := hub.channels.length
  ({ registry := hub.registry.add ⟨id, number⟩
     channels := hub.channels ++ [⟨true, []⟩] }, number)

/-- Drop the registration of an id. -/
def leave (hub : Hub) (id : String) : Hub :=
  { hub with registry := hub.registry.remove id }

/-- Give up the receiving side of a channel, with the frames that wait in it. -/
def hangUp (hub : Hub) (number : Nat) : Hub :=
  hub.modifyChannel number fun _ => ⟨false, []⟩

/-- Whether frames for an endpoint still reach someone. -/
def isConnected (hub : Hub) (e : Endpoint) : Bool :=
  (hub.channel? e.channel).any (·.receiving)

/-- Queue a frame for an endpoint. -/
def send (hub : Hub) (e : Endpoint) (frame : Frame) : Except Failure Hub :=
  if hub.isConnected e then
    .ok (hub.modifyChannel e.channel fun c => { c with queue := c.queue ++ [frame] })
  else .error (.undelivered e.id)

/-- Take all frames that wait in a channel; `none` if its receiving side is gone. -/
def drain (hub : Hub) (number : Nat) : Option (List Frame) × Hub :=
  match hub.channel? number with
  | some ⟨true, queue⟩ =>
    (some queue, hub.modifyChannel number fun c => { c with queue := [] })
  | _ => (none, hub)

/-- Run a program for every endpoint that is registered when it starts. -/
def forEach {α : Type} (state : α) (hubOf : α → Hub) (visit : α → Endpoint → α) : α :=
  (hubOf state).registry.snapshot.foldl visit state

end Hub

end FeedRelay
