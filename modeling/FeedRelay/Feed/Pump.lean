import FeedRelay.Feed.Subscription
import FeedRelay.ReconnectPolicy

/-!
# Pumps

The pump of a key hands the events of its connection to a handler, in order. When the
connection closes without having been asked to, or could not be opened in the first place, the
pump connects again as the reconnect policy says. It can be told to stop at any time: then it
closes the connection it has, hands on what is left of its events, and ends.

A pump is a machine. Its environment chooses what happens next, among the things that the pump
is waiting for.
-/

namespace FeedRelay.Feed

/-- What a pump is doing: handing on events, which may be those of a connection it has asked to
close; waiting before an attempt to connect; making an attempt; or nothing any more. Attempts
are counted with 32 bits, and a pump whose counter is used up is stuck. -/
inductive Phase where
  | driving (closing : Bool)
  | waiting (attempt : Nat) (delay : Interval)
  | opening (attempt : Nat)
  | stuck
  | ended
  deriving DecidableEq, Repr

/-- The pump of a key. -/
structure Pump where
  topic : Topic
  policy : ReconnectPolicy
  state : State
  phase : Phase
  deriving Repr

/-- What may happen to a pump: it is told to stop, its connection has an event or no more
events, a delay is over, or an attempt to connect succeeds or fails. -/
inductive Happening where
  | stop
  | event (event : Option Event)
  | elapsed
  | opened
  | failed (failure : Failure)
  deriving DecidableEq, Repr

/-- What a pump does: hand an event of its topic to the handler, close its connection, wait, try
to connect, or log. -/
inductive Action where
  | handle (topic : Topic) (event : Event)
  | close
  | wait (delay : Interval)
  | connect
  | log (line : Log.Line)
  deriving Repr

namespace Pump

/-- The bound of the number of an attempt. -/
def attemptLimit : Nat := Nat.pow 2 32

/-- Whether a pump has a connection whose events it hands on. -/
def isDriving (p : Pump) : Bool :=
  match p.phase with
  | .driving _ => true
  | _ => false

/-- End for good. -/
def finish (p : Pump) : Pump :=
  { p with state := .closed, phase := .ended }

/-- The line about an attempt to come; attempts are shown counted from one. -/
def attemptLine (p : Pump) (delay : Interval) (attempt : Nat) : Log.Line :=
  Log.info .subscriptions
    s!"Reconnecting to {p.topic.resourcePath} in {delay.toText} (attempt {attempt})"

/-- Plan the attempt after some that were made: wait for it, or give up. -/
def plan (p : Pump) (made : Nat) : Pump × List Action :=
  if p.policy.allows made then
    if attemptLimit ≤ made + 1 then ({ p with phase := .stuck }, [])
    else
      let delay := p.policy.delayFor made
      ({ p with state := .connecting, phase := .waiting (made + 1) delay },
        [.log (p.attemptLine delay (made + 1)), .wait delay])
  else
    (p.finish,
      if p.policy.enabled then
        [.log (Log.error .subscriptions
          s!"Giving up on {p.topic.resourcePath} after {made} reconnect attempts")]
      else [])

/-- The pump of a connection that is open, or of none yet. -/
def start (topic : Topic) (policy : ReconnectPolicy) (connected : Bool) : Pump × List Action :=
  if connected then
    ({ topic, policy, state := .streaming, phase := .driving false }, [])
  else
    ({ topic, policy, state := .connecting, phase := .ended } : Pump).plan 0

/-- Hand on an event. After the last one, the pump ends if it was told to stop or the close was
asked for, and plans to connect again otherwise. -/
def drive (p : Pump) (closing : Bool) : Option Event → Pump × List Action
  | none => (p.finish, [])
  | some (.closed reason) =>
    let (p, actions) := if closing ∨ reason = .requested then (p.finish, []) else p.plan 0
    (p, .handle p.topic (.closed reason) :: actions)
  | some event => (p, [.handle p.topic event])

/-- What a pump does about what happens; `none` if it is not waiting for that. -/
def step (p : Pump) (happening : Happening) : Option (Pump × List Action) :=
  match p.phase, happening with
  | .driving false, .stop => some ({ p with phase := .driving true }, [.close])
  | .driving closing, .event event => some (p.drive closing event)
  | .waiting _ _, .stop => some (p.finish, [])
  | .waiting attempt _, .elapsed => some ({ p with phase := .opening attempt }, [.connect])
  | .opening _, .stop => some (p.finish, [])
  | .opening _, .opened =>
    some ({ p with state := .streaming, phase := .driving false }, [])
  | .opening attempt, .failed failure =>
    let (p, actions) := p.plan attempt
    some (p, .log (Log.warn .subscriptions
      s!"Reconnect to {p.topic.resourcePath} failed: {failure.message}") :: actions)
  | _, _ => none

end Pump

end FeedRelay.Feed
