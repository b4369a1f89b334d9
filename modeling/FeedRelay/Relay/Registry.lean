/-!
# The registry of endpoints

The downstream endpoints that are connected right now, each under its own id and with the
number of the channel on which frames for it are queued. An id is registered once: adding it
again puts the new endpoint in place of the old one.
-/

namespace FeedRelay

/-- A downstream endpoint. -/
structure Endpoint where
  id : String
  channel : Nat
  deriving DecidableEq, Repr

/-- The endpoints that are registered, in the order of their ids. -/
structure Registry where
  endpoints : List Endpoint
  deriving DecidableEq, Repr

namespace Registry

/-- No endpoints. -/
def empty : Registry := ⟨[]⟩

/-- Put an endpoint in its place among others, or in place of the one with its id. -/
def insert (e : Endpoint) : List Endpoint → List Endpoint
  | [] => [e]
  | f :: rest =>
    if e.id = f.id then e :: rest
    else if e.id < f.id then e :: f :: rest
    else f :: insert e rest

/-- Register an endpoint. -/
def add (r : Registry) (e : Endpoint) : Registry :=
  ⟨insert e r.endpoints⟩

/-- Drop the endpoint with an id. -/
def remove (r : Registry) (id : String) : Registry :=
  ⟨r.endpoints.filter (·.id ≠ id)⟩

/-- The endpoint with an id. -/
def find? (r : Registry) (id : String) : Option Endpoint :=
  r.endpoints.find? (·.id = id)

/-- Whether an id is registered. -/
def contains (r : Registry) (id : String) : Bool :=
  (r.find? id).isSome

/-- How many endpoints are registered. -/
def size (r : Registry) : Nat :=
  r.endpoints.length

/-- The endpoints at this moment. -/
def snapshot (r : Registry) : List Endpoint :=
  r.endpoints

end Registry

end FeedRelay
