import FeedRelay.Address.Socket
import FeedRelay.Log.Line

/-!
# Accepting connections

The relay accepts downstream connections for ever. A fault of one that was about to come is
passed over; after any other fault there is a pause, so that a lack of resources does not keep
the relay busy.
-/

namespace FeedRelay

/-- The kinds of faults of accepting a connection. -/
inductive AcceptFault where
  | aborted
  | reset
  | interrupted
  | refused
  | timedOut
  | wouldBlock
  | denied
  | brokenPipe
  | notConnected
  | other
  deriving DecidableEq, Repr

/-- Whether a fault concerns only the connection that was about to come. -/
def AcceptFault.isOfPeer : AcceptFault → Bool
  | .aborted | .reset | .interrupted => true
  | _ => false

/-- What a call to accept gives: a connection from an address, or a fault with its wording. -/
inductive Accepted where
  | connection (peer : Address.Socket)
  | fault (kind : AcceptFault) (text : String)
  deriving DecidableEq, Repr

/-- How far accepting is: the time in milliseconds, when each call to accept was made, the
connections handed to their handlers, and the log. The last call is still waiting. -/
structure Acceptor where
  now : Nat
  calls : List Nat
  handled : List Address.Socket
  log : List Log.Line
  deriving DecidableEq, Repr

namespace Acceptor

/-- The pause after a fault, in milliseconds. -/
def pause : Nat := 100

/-- Start to accept on an address, if it is known, and wait for the first connection. -/
def start (address : Option Address.Socket) : Acceptor where
  now := 0
  calls := [0]
  handled := []
  log := address.toList.map fun s =>
    Log.info .server ("Downstream server listening on ws://" ++ String.ofList s.render)

/-- Call accept once more. -/
def again (a : Acceptor) (wait : Nat) (line : Log.Line) : Acceptor :=
  { a with now := a.now + wait, calls := a.calls ++ [a.now + wait], log := a.log ++ [line] }

/-- Go on from what the waiting call gives. -/
def step (a : Acceptor) : Accepted → Acceptor
  | .connection peer =>
    { a with handled := a.handled ++ [peer] }.again 0
      (Log.debug .server ("Accepted downstream connection from " ++ String.ofList peer.render))
  | .fault kind text =>
    if kind.isOfPeer then
      a.again 0 (Log.debug .server ("Downstream connection dropped before accept: " ++ text))
    else a.again pause (Log.warn .server ("Failed to accept downstream connection: " ++ text))

/-- Go on from a list of results. -/
def run (a : Acceptor) (results : List Accepted) : Acceptor :=
  results.foldl step a

end Acceptor

end FeedRelay
