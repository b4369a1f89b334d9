import FeedRelay.Feed.Roster

/-!
# Followers on a clock

How the followers of a roster go on by themselves when nothing arrives from outside. The delay
of each ends at its time, and then the follower tries to connect. Time is counted in
milliseconds, and a delay ends with the millisecond that it ends in.
-/

namespace FeedRelay.Feed

/-- A roster on a clock: the time, the keys that wait with the times when their delays end, the
earliest first, and what was done so far with its times. -/
structure Clock where
  now : Nat
  roster : Roster
  due : List (Nat × String)
  history : List (Nat × Action)
  deriving Repr

namespace Clock

/-- A roster at the beginning of time. -/
def start (roster : Roster) : Clock where
  now := 0
  roster
  due := []
  history := []

/-- Note what is done now. -/
def record (c : Clock) (actions : List Action) : Clock :=
  { c with history := c.history ++ actions.map fun action => (c.now, action) }

/-- Note a log line. -/
def log (c : Clock) (line : Log.Line) : Clock :=
  c.record [.log line]

/-- Put the end of a delay behind those that are not later. -/
def insertDue (time : Nat) (key : String) : List (Nat × String) → List (Nat × String)
  | [] => [(time, key)]
  | (t, k) :: rest =>
    if time < t then (time, key) :: (t, k) :: rest else (t, k) :: insertDue time key rest

/-- Note when the delay of a key ends, if it waits. -/
def schedule (c : Clock) (key : String) : Clock :=
  let others := c.due.filter (·.2 ≠ key)
  match (c.roster.find? key).bind Follower.delay? with
  | some delay => { c with due := insertDue (c.now + delay.millisecondsUp) key others }
  | none => { c with due := others }

/-- Subscribe to a topic now. -/
def subscribe (c : Clock) (network : Connect) (topic : Topic) : Except Failure State × Clock :=
  let s := c.roster.subscribe network topic
  let c := { c with roster := s.roster }.record s.actions
  match s.result with
  | .ok state => (.ok state, c.schedule topic.displayKey)
  | .error failure => (.error failure, c)

/-- Unsubscribe from a key now; `none` if it is not followed. -/
def unsubscribe (c : Clock) (key : String) : Option Clock :=
  (c.roster.unsubscribe key []).map fun (roster, actions) =>
    ({ c with roster }.record actions).schedule key

/-- Tear down all followers now. -/
def shutdown (c : Clock) : Clock :=
  let (roster, actions) := c.roster.shutdown fun _ => []
  { c with roster, due := [] }.record actions

/-- Whether everything that happens now has happened. -/
def isSettled (c : Clock) : Bool :=
  c.due.all fun (time, _) => c.now < time

/-- Go on to the delay that ends next, and let its follower try to connect; `none` if nobody
waits. -/
def tick (c : Clock) (network : Connect) : Option Clock :=
  match c.due with
  | [] => none
  | (time, key) :: rest =>
    let c := { c with now := max c.now time, due := rest }
    match c.roster.find? key with
    | none => some c
    | some f =>
      let (f, actions) := f.retry network c.roster.base
      some (({ c with roster := c.roster.put f }.record actions).schedule key)

/-- Go on until a condition holds or nobody waits, but for a number of delays at most. -/
def runUntil (network : Connect) (stop : Clock → Bool) : Nat → Clock → Clock
  | 0, c => c
  | fuel + 1, c =>
    if stop c then c
    else
      match c.tick network with
      | some c => runUntil network stop fuel c
      | none => c

/-- Whether an action shows: events that are handed on do, and log lines but those about
details. -/
def isShown : Action → Bool
  | .handle _ _ => true
  | .log line => line.level.rank ≤ Log.Level.info.rank
  | _ => false

/-- What was done so far that shows. -/
def timeline (c : Clock) : List (Nat × Action) :=
  c.history.filter fun (_, action) => isShown action

end Clock

end FeedRelay.Feed
