import FeedRelay.Log.Line
import FeedRelay.Message
import FeedRelay.Relay.Hub

/-!
# Broadcasting

A message goes to every endpoint that is registered when its broadcast starts. An endpoint
that refuses it is dropped from the registry; the others are served all the same.
-/

namespace FeedRelay

/-- What came of a broadcast: to how many endpoints the message went, and which refused it. -/
structure DeliveryReport where
  delivered : Nat
  failed : List String
  deriving DecidableEq, Repr

/-- Whether every endpoint took the message. -/
def DeliveryReport.isComplete (report : DeliveryReport) : Bool :=
  report.failed.isEmpty

/-- A broadcast on its way: the hub as it is now, what came of it so far, and its log. -/
structure Broadcast where
  hub : Hub
  report : DeliveryReport
  log : List Log.Line
  deriving Repr

namespace Broadcast

/-- A broadcast that has not reached anyone. -/
def start (hub : Hub) : Broadcast :=
  { hub, report := ⟨0, []⟩, log := [] }

/-- Serve one endpoint. -/
def visit (message : Message) (b : Broadcast) (e : Endpoint) : Broadcast :=
  match b.hub.send e message.toFrame with
  | .ok hub =>
    { hub
      report := { b.report with delivered := b.report.delivered + 1 }
      log := b.log ++ [Log.debug .broadcast s!"Relayed {message.topic} message to {e.id}"] }
  | .error failure =>
    { hub := b.hub.leave e.id
      report := { b.report with failed := b.report.failed ++ [e.id] }
      log := b.log ++ [Log.warn .broadcast (failure.message ++ ", evicting")] }

/-- Note that there was nobody to serve. -/
def conclude (message : Message) (b : Broadcast) : Broadcast :=
  if b.report.delivered = 0 ∧ b.report.failed = [] then
    let line := Log.debug .broadcast s!"No endpoints connected, dropped {message.topic} message"
    { b with log := b.log ++ [line] }
  else b

/-- A broadcast that serves a list of endpoints, one after another. -/
def serve (message : Message) (endpoints : List Endpoint) (hub : Hub) : Broadcast :=
  (endpoints.foldl (visit message) (start hub)).conclude message

end Broadcast

/-- Broadcast a message to every endpoint registered right now. -/
def Hub.broadcast (hub : Hub) (message : Message) : Broadcast :=
  Broadcast.serve message hub.registry.snapshot hub

end FeedRelay
