import FeedRelay.Feed.Event
import FeedRelay.Log.Line
import FeedRelay.Text.Quoted

/-!
# The reader of a connection

A reader turns what arrives on a connection into events. The first event says that the
connection is open, then each data frame is a message, and the last event says why the
connection closed. The reader also ends when its owner asks it to, and then it closes the
connection from this side.
-/

namespace FeedRelay.Feed

/-- What a reader reacts to: its owner asks it to stop, a frame arrives, the connection breaks,
or it ends. -/
inductive Signal where
  | stop
  | frame (frame : Frame)
  | fault (text : String)
  | ended
  deriving DecidableEq, Repr

/-- The reader of a connection: the key of its topic, where the connection stands, the events
that nobody has taken yet, and whether it closed the connection from this side. -/
structure Reader where
  key : String
  state : State
  events : List Event
  sentClose : Bool
  log : List Log.Line
  deriving DecidableEq, Repr

/-- The text of a reason for messages. -/
def CloseReason.toText : CloseReason → String
  | .requested => "Local"
  | .remote none => "Remote(None)"
  | .remote (some why) => "Remote(Some(" ++ Text.quoted why ++ "))"
  | .broken fault => "Error(" ++ Text.quoted fault ++ ")"

/-- The reason that a close frame gives; an empty one is none. -/
def CloseReason.ofFrame (body : Option CloseBody) : CloseReason :=
  .remote ((body.map (·.reason)).filter (· ≠ ""))

namespace Reader

/-- The reader of a connection that has just been opened. -/
def start (key : String) : Reader where
  key
  state := .streaming
  events := [.opened]
  sentClose := false
  log := []

/-- Close for a reason. The state changes before the event can be seen. -/
def finish (r : Reader) (reason : CloseReason) : Reader :=
  { r with
    state := .closed
    events := r.events ++ [.closed reason]
    sentClose := r.sentClose || reason == .requested
    log := r.log ++
      [Log.debug .connection s!"Subscription {r.key} closed: {reason.toText}"] }

/-- React to a frame. -/
def receive (r : Reader) : Frame → Reader
  | .close body => r.finish (.ofFrame body)
  | frame =>
    match Message.ofFrame? r.key frame with
    | some message => { r with events := r.events ++ [.message message] }
    | none => r

/-- React to a signal. A reader that has closed reacts to nothing. -/
def react (r : Reader) (signal : Signal) : Reader :=
  if r.state = .closed then r
  else
    match signal with
    | .stop => r.finish .requested
    | .frame frame => r.receive frame
    | .fault text => r.finish (.broken text)
    | .ended => r.finish (.remote none)

/-- React to signals one after another. -/
def run (r : Reader) (signals : List Signal) : Reader :=
  signals.foldl react r

end Reader

end FeedRelay.Feed
