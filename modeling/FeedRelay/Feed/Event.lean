import FeedRelay.Message

/-!
# Events of a feed

What happens on the connection to a feed, in the order in which it happens: it opens,
messages arrive, and it closes for a reason.
-/

namespace FeedRelay.Feed

/-- Where a connection, or the subscription of a key, stands. -/
inductive State where
  | connecting
  | streaming
  | closed
  deriving DecidableEq, Repr

/-- What a wait for a state comes to: the state is there, it will never be, or one has to wait on.
What has closed stays closed. -/
def State.awaited (now target : State) : Option Bool :=
  if now = target then some true else if now = .closed then some false else none

/-- The word for a state in messages. -/
def State.label : State → String
  | .connecting => "Connecting"
  | .streaming => "Open"
  | .closed => "Closed"

/-- Why a connection ended: this side asked for it, the other side closed it, perhaps saying
why, or it broke. -/
inductive CloseReason where
  | requested
  | remote (why : Option String)
  | broken (fault : String)
  deriving DecidableEq, Repr

/-- An event of a feed. -/
inductive Event where
  | opened
  | message (message : Message)
  | closed (reason : CloseReason)
  deriving DecidableEq, Repr

end FeedRelay.Feed
