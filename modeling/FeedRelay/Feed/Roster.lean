import FeedRelay.Feed.Follower

/-!
# The roster of followers

All topics of one service that are followed, each under its own key. A key is followed once:
only when its follower has closed can the key be followed again. An attempt that fails is given
back as a failure, unless the reconnect policy takes care of it.
-/

namespace FeedRelay.Feed

/-- The followers of a service, in the order of their keys. -/
structure Roster where
  base : Url
  policy : ReconnectPolicy
  followers : List Follower
  deriving Repr

/-- What comes of subscribing: the state of the new follower or a failure, the roster, and what
was done. -/
structure Subscribed where
  result : Except Failure State
  roster : Roster
  actions : List Action
  deriving Repr

namespace Roster

/-- A roster without followers. -/
def empty (base : Url) (policy : ReconnectPolicy) : Roster :=
  { base, policy, followers := [] }

/-- The follower of a key. -/
def find? (roster : Roster) (key : String) : Option Follower :=
  roster.followers.find? (·.key = key)

/-- Where the follower of a key stands. -/
def state? (roster : Roster) (key : String) : Option State :=
  (roster.find? key).map Follower.state

/-- The keys that are followed, in order. -/
def keys (roster : Roster) : List String :=
  roster.followers.map Follower.key

/-- How many keys are followed. -/
def size (roster : Roster) : Nat :=
  roster.followers.length

/-- Whether no key is followed. -/
def isEmpty (roster : Roster) : Bool :=
  roster.followers.isEmpty

/-- Whether all followers have closed. -/
def isClosed (roster : Roster) : Bool :=
  roster.followers.all (·.state = .closed)

/-- Whether the follower of a key has not closed. -/
def isLive (roster : Roster) (key : String) : Bool :=
  (roster.state? key).any (· ≠ .closed)

/-- Put a follower in its place among others, or in place of the one with its key. -/
def insert (f : Follower) : List Follower → List Follower
  | [] => [f]
  | g :: rest =>
    if f.key = g.key then f :: rest
    else if f.key < g.key then f :: g :: rest
    else g :: insert f rest

/-- Add a follower, or change the one with its key. -/
def put (roster : Roster) (f : Follower) : Roster :=
  { roster with followers := insert f roster.followers }

/-- Drop the follower of a key. -/
def drop (roster : Roster) (key : String) : Roster :=
  { roster with followers := roster.followers.filter (·.key ≠ key) }

/-- Follow a topic from a connection to an address, or without one. -/
def follow (roster : Roster) (topic : Topic) (url : Option Url) (line : Log.Line)
    (log : List Log.Line) : Subscribed :=
  let (f, actions) := Follower.start topic roster.policy url
  { result := .ok f.state
    roster := roster.put f
    actions := (log ++ [line]).map .log ++ actions }

/-- Subscribe to a topic. A follower of its key that has closed is dropped first, also if the
new one does not come about. -/
def subscribe (roster : Roster) (network : Connect) (topic : Topic) : Subscribed :=
  let key := topic.displayKey
  if roster.isLive key then ⟨.error (.alreadySubscribed key), roster, []⟩
  else
    let roster := roster.drop key
    match connect network topic roster.base with
    | (.ok url, log) =>
      roster.follow topic (some url)
        (Log.debug .subscriptions (key ++ " streaming from " ++ url.toText)) log
    | (.error failure, log) =>
      if failure.isOfConnection && roster.policy.enabled then
        roster.follow topic none
          (Log.warn .subscriptions
            ("Upstream for " ++ key ++ " unavailable, retrying: " ++ failure.message)) log
      else ⟨.error failure, roster, log.map .log⟩

/-- Tear down the follower of a key and drop it; `none` if there is none. Its reader takes some
more signals before it sees that. -/
def unsubscribe (roster : Roster) (key : String) (taken : List Signal) :
    Option (Roster × List Action) :=
  (roster.find? key).map fun f =>
    (roster.drop key,
      (f.teardown taken).2 ++ [.log (Log.info .subscriptions ("Unsubscribed from " ++ key))])

/-- Tear down all followers. The reader of each takes some more signals before it sees that. -/
def shutdown (roster : Roster) (taken : Follower → List Signal) : Roster × List Action :=
  ({ roster with followers := [] },
    roster.followers.flatMap fun f =>
      .log (Log.debug .subscriptions ("Closing subscription " ++ f.key)) ::
        (f.teardown (taken f)).2)

/-- Let something happen to the follower of a key; `none` if it does not wait for that. -/
def step (roster : Roster) (key : String) (occurrence : Occurrence) :
    Option (Roster × List Action) :=
  (roster.find? key).bind fun f =>
    (f.step occurrence).map fun (f, actions) => (roster.put f, actions)

/-- A roster in short, for messages. -/
def toText (roster : Roster) : String :=
  "Multiplexer \x7b base_url: " ++ Text.quoted roster.base.toText ++
    ", policy: " ++ roster.policy.toText ++
    ", keys: [" ++ String.intercalate ", " (roster.keys.map Text.quoted) ++ "] \x7d"

end Roster

end FeedRelay.Feed
