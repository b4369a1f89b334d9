import FeedRelay.Network
import FeedRelay.Topic.Fault

/-!
# Failures

Why the relay does not do what it is asked to, and how it says so.
-/

namespace FeedRelay

/-- Why the relay does not do what it is asked to. -/
inductive Failure where
  | connection (address : String) (fault : Network.ConnectFault)
  | undelivered (endpoint : String)
  | invalidTopic (fault : Topic.Fault)
  | alreadySubscribed (key : String)
  | listen (address : String) (fault : Network.Fault)
  | serverStopped
  | malformedAddress (fault : Url.Fault)
  deriving DecidableEq, Repr

/-- The wording of a failure. -/
def Failure.message : Failure → String
  | .connection address fault =>
    "connection to " ++ address ++ " failed: " ++ fault.message
  | .undelivered endpoint => "failed to send to endpoint " ++ endpoint
  | .invalidTopic fault => "invalid argument: " ++ fault.message
  | .alreadySubscribed key => "topic '" ++ key ++ "' already has a live subscription"
  | .listen address fault => "failed to bind " ++ address ++ ": " ++ fault.message
  | .serverStopped => "downstream server stopped"
  | .malformedAddress fault => fault.message

/-- Whether a failure is that of a connection, which may come about later. -/
def Failure.isOfConnection : Failure → Bool
  | .connection .. => true
  | _ => false

end FeedRelay
