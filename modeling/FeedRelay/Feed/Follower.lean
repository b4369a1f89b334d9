import FeedRelay.Feed.Pump

/-!
# Followers

A follower keeps to one topic: it is the pump of the topic together with the connection that
the pump has right now. The pump asks a connection to close; the reader of the connection sees
that in its own time, and the events that it still makes are handed on.
-/

namespace FeedRelay.Feed

/-- A topic that is followed. -/
structure Follower where
  pump : Pump
  connection : Option Subscription
  deriving Repr

/-- What may happen to a follower: it is told to stop, its reader gets a signal, its pump takes
the next event, a delay is over, or an attempt to connect comes out. -/
inductive Occurrence where
  | stop
  | signal (signal : Signal)
  | event
  | elapsed
  | attempt (result : Except Failure Url)
  deriving Repr

namespace Follower

/-- The topic of a follower. -/
def topic (f : Follower) : Topic :=
  f.pump.topic

/-- The key of a follower. -/
def key (f : Follower) : String :=
  f.topic.displayKey

/-- Where a follower stands. -/
def state (f : Follower) : State :=
  f.pump.state

/-- Start from a connection to an address, or without one. -/
def start (topic : Topic) (policy : ReconnectPolicy) (url : Option Url) :
    Follower × List Action :=
  let (pump, actions) := Pump.start topic policy url.isSome
  ({ pump, connection := url.map (Subscription.start topic) }, actions)

/-- Let the pump go on with a connection, which it gives up unless it hands on its events. -/
def advance (f : Follower) (happening : Happening) (connection : Option Subscription) :
    Option (Follower × List Action) :=
  (f.pump.step happening).map fun (pump, actions) =>
    ({ pump, connection := if pump.isDriving then connection else none }, actions)

/-- What a follower does about what happens; `none` if it is not waiting for that. -/
def step (f : Follower) : Occurrence → Option (Follower × List Action)
  | .stop => f.advance .stop (f.connection.map Subscription.close)
  | .signal signal =>
    f.connection.map fun s => ({ f with connection := some (s.receive signal) }, [])
  | .event =>
    f.connection.bind fun s =>
      match s.nextEvent with
      | (.ready event, s) => f.advance (.event (some event)) (some s)
      | (.ended, s) => f.advance (.event none) (some s)
      | (.waiting, _) => none
  | .elapsed => f.advance .elapsed none
  | .attempt (.ok url) => f.advance .opened (some (.start f.topic url))
  | .attempt (.error failure) => f.advance (.failed failure) none

/-- Let things happen one after another; what a follower does not wait for is passed over. -/
def run (f : Follower) : List Occurrence → Follower × List Action
  | [] => (f, [])
  | occurrence :: rest =>
    match f.step occurrence with
    | some (f, actions) =>
      let (f, more) := f.run rest
      (f, actions ++ more)
    | none => f.run rest

/-- How many events wait to be handed on. -/
def pending (f : Follower) : Nat :=
  match f.connection with
  | some s => s.reader.events.length
  | none => 0

/-- Hand on the events that wait. -/
def handOn (f : Follower) : Follower × List Action :=
  f.run (List.replicate f.pending .event)

/-- Tear a follower down: it is told to stop, its reader takes some more signals before it sees
that, and the events that are left are handed on. -/
def teardown (f : Follower) (taken : List Signal) : Follower × List Action :=
  let (f, actions) := f.run ([.stop] ++ taken.map .signal ++ [.signal .stop])
  let (f, more) := f.handOn
  (f, actions ++ more)

/-- The attempt to connect that the end of a delay brings. -/
def retry (f : Follower) (network : Connect) (base : Url) : Follower × List Action :=
  let (f, actions) := f.run [.elapsed]
  let (result, log) := connect network f.topic base
  let (f, more) := f.run [.attempt result]
  (f, actions ++ log.map .log ++ more)

/-- The delay that a follower waits for. -/
def delay? (f : Follower) : Option Interval :=
  match f.pump.phase with
  | .waiting _ delay => some delay
  | _ => none

end Follower

end FeedRelay.Feed
