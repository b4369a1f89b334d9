import FeedRelay.Failure
import FeedRelay.Feed.Reader
import FeedRelay.Topic.Location

/-!
# Subscriptions

A subscription is a connection to the feed of a topic with its reader. Its owner takes the
events of the reader one by one, each of them once, and may ask the reader to stop.
-/

namespace FeedRelay.Feed

/-- Where a network lets one connect to: the fault of an address, if it has one. -/
abbrev Connect := Url → Option Network.ConnectFault

/-- Try to connect to the feed of a topic: the address it is found at, with the line that says
so, or the failure. -/
def connect (network : Connect) (topic : Topic) (base : Url) :
    Except Failure Url × List Log.Line :=
  match topic.url base with
  | .error fault => (.error (.invalidTopic fault), [])
  | .ok url =>
    let attempt := Log.debug .connection ("Connecting to " ++ url.toText)
    match network url with
    | some fault => (.error (.connection url.toText fault), [attempt])
    | none =>
      (.ok url,
        [attempt, Log.info .connection ("Subscribed to " ++ topic.resourcePath)])

/-- A subscription: its topic, the address of its feed, its reader, and whether the reader was
asked to stop. -/
structure Subscription where
  topic : Topic
  url : Url
  reader : Reader
  closing : Bool
  deriving Repr

/-- What comes of taking something from a queue: it is there, the queue has ended, or one would
have to wait. -/
inductive Taken (α : Type) where
  | ready (value : α)
  | ended
  | waiting
  deriving DecidableEq, Repr

namespace Subscription

/-- The subscription of a connection that has just been opened. -/
def start (topic : Topic) (url : Url) : Subscription :=
  { topic, url, reader := .start topic.displayKey, closing := false }

/-- Where the connection stands. -/
def state (s : Subscription) : State :=
  s.reader.state

/-- Ask the reader to stop. It may take more from the connection before it sees that. -/
def close (s : Subscription) : Subscription :=
  { s with closing := true }

/-- The reader reacts to what arrives on the connection, or stops if it was asked to. -/
def receive (s : Subscription) (signal : Signal) : Subscription :=
  if signal = .stop ∧ !s.closing then s else { s with reader := s.reader.react signal }

/-- Take the next event. -/
def nextEvent (s : Subscription) : Taken Event × Subscription :=
  match s.reader.events with
  | event :: rest => (.ready event, { s with reader := { s.reader with events := rest } })
  | [] => (if s.reader.state = .closed then .ended else .waiting, s)

/-- The first message of a list of events, and the events behind it. -/
def firstMessage : List Event → Option Message × List Event
  | [] => (none, [])
  | .message message :: rest => (some message, rest)
  | _ :: rest => firstMessage rest

/-- Take the next message, and drop the other events before it. -/
def nextMessage (s : Subscription) : Taken Message × Subscription :=
  let (found, rest) := firstMessage s.reader.events
  let s := { s with reader := { s.reader with events := rest } }
  match found with
  | some message => (.ready message, s)
  | none => (if s.reader.state = .closed then .ended else .waiting, s)

/-- The reason of the last close event of a list. -/
def lastReason (events : List Event) : Option CloseReason :=
  events.foldl (fun found event =>
    match event with
    | .closed reason => some reason
    | _ => found) none

/-- Close the subscription, drop the events that are left, and give the reason it closed for,
unless that event was taken before. The reader takes some more from the connection first. -/
def shutdown (s : Subscription) (taken : List Signal) : Option CloseReason :=
  lastReason ((taken ++ [Signal.stop]).foldl receive s.close).reader.events

end Subscription

end FeedRelay.Feed
