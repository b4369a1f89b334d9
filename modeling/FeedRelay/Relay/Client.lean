import FeedRelay.Log.Line
import FeedRelay.Relay.Hub

/-!
# Downstream clients

A client whose handshake is done is registered under an id of its own and is served by two loops.
The reading loop takes what the client sends, until the client closes or is gone; then it drops
the registration. The writing loop writes the frames from the client's channel, one after another.
If one cannot be written, it drops the registration as well and stops; it also stops when the
channel is empty and nobody can queue any more. In the end it gives up the channel.

The environment chooses which of the loops goes on. It also decides when nobody can queue any
more, since a broadcast may hold on to an endpoint that has been dropped.
-/

namespace FeedRelay

namespace Client

/-- What the writing loop of a client is doing: waiting for a frame, writing one, closing the
connection, or nothing any more. -/
inductive Writing where
  | idle
  | busy (frame : Frame)
  | closing
  | ended
  deriving DecidableEq, Repr

/-- What may happen to a client: it sends a frame or is gone, at some time in milliseconds; or its
writing loop takes a frame, has written it, could not write it, finds that there will be no more,
or has closed the connection. -/
inductive Happening where
  | received (frame : Frame) (now : Int)
  | gone (now : Int)
  | taken
  | written
  | refused (fault : String)
  | drained
  | closed
  deriving DecidableEq, Repr

end Client

/-- A client that is served: its endpoint, the time from which it is, whether it is read from,
what its writing loop is doing, and the frames written to it. -/
structure Client where
  endpoint : Endpoint
  since : Int
  reading : Bool
  writing : Client.Writing
  written : List Frame
  deriving DecidableEq, Repr

/-- What comes of a step of a client. -/
structure ClientStep where
  hub : Hub
  client : Client
  log : List Log.Line
  deriving Repr

namespace Client

/-- The log line about a handshake that failed. -/
def handshakeLine (fault : String) : Log.Line :=
  Log.warn .server ("WebSocket handshake error: " ++ fault)

/-- Register a client whose handshake is done, under an id and with a fresh channel. -/
def welcome (hub : Hub) (id : String) (now : Int) : ClientStep :=
  let (hub, channel) := hub.join id
  { hub
    client := ⟨⟨id, channel⟩, now, true, .idle, []⟩
    log := [Log.info .server s!"{id} connected ({hub.registry.size} total)"] }

/-- Stop to read from a client, and drop its registration. -/
def leave (c : Client) (hub : Hub) (now : Int) : ClientStep :=
  let id := c.endpoint.id
  let hub := hub.leave id
  { hub
    client := { c with reading := false }
    log := [Log.info .server
      s!"{id} disconnected after {now - c.since} ms ({hub.registry.size} remaining)"] }

/-- React to a frame that a client sends. Only its text is noted. -/
def receive (c : Client) (hub : Hub) (now : Int) : Frame → ClientStep
  | .text s => ⟨hub, c, [Log.info .server ("received: " ++ s)]⟩
  | .close _ => c.leave hub now
  | _ => ⟨hub, c, []⟩

/-- Take the next frame from the channel of a client. -/
def take (c : Client) (hub : Hub) : Option ClientStep :=
  match (hub.channel? c.endpoint.channel).map (·.queue) with
  | some (frame :: rest) =>
    let hub := hub.modifyChannel c.endpoint.channel fun channel => { channel with queue := rest }
    some ⟨hub, { c with writing := .busy frame }, []⟩
  | _ => none

/-- Whether no frame waits for a client that is not registered any more. -/
def isDrained (c : Client) (hub : Hub) : Bool :=
  hub.registry.find? c.endpoint.id ≠ some c.endpoint &&
    (hub.channel? c.endpoint.channel).all (·.queue.isEmpty)

/-- What comes of what happens to a client; `none` if that cannot happen now. -/
def step (c : Client) (hub : Hub) : Happening → Option ClientStep
  | .received frame now => if c.reading then some (c.receive hub now frame) else none
  | .gone now => if c.reading then some (c.leave hub now) else none
  | .taken => if c.writing = .idle then c.take hub else none
  | .written =>
    match c.writing with
    | .busy frame => some ⟨hub, { c with writing := .idle, written := c.written ++ [frame] }, []⟩
    | _ => none
  | .refused fault =>
    match c.writing with
    | .busy _ =>
      let line := Log.warn .server s!"Failed to send to {c.endpoint.id}: {fault}"
      some ⟨hub.leave c.endpoint.id, { c with writing := .closing }, [line]⟩
    | _ => none
  | .drained =>
    if c.writing = .idle ∧ c.isDrained hub then some ⟨hub, { c with writing := .closing }, []⟩
    else none
  | .closed =>
    if c.writing = .closing then
      let line := Log.debug .server s!"Send loop closed for {c.endpoint.id}"
      some ⟨hub.hangUp c.endpoint.channel, { c with writing := .ended }, [line]⟩
    else none

end Client

end FeedRelay
