import FeedRelay.Settings.Node
import FeedRelay.Settings.Path

/-!
# Layers of settings

A layer is a list of paths with the nodes to put there. Layers are laid over one another: where
both have a table, the tables are merged key by key, and anywhere else the upper layer wins.
-/

namespace FeedRelay.Settings

namespace Members

/-- The node of a key. -/
def find? (m : Members) (key : String) : Option Node :=
  (List.find? (fun pair => pair.1 = key) m).map (·.2)

/-- Give a key a node, in place of the one it has. -/
def put (m : Members) (key : String) (node : Node) : Members :=
  if (Members.find? m key).isSome then
    m.map fun (k, old) => if k = key then (k, node) else (k, old)
  else m ++ [(key, node)]

end Members

namespace Node

/-- A node as a table: anything else gives way to an empty one. -/
def asTable : Node → Node
  | .table origin members => .table origin members
  | _ => .table none []

/-- Change the node of a key; a missing one is no value yet. -/
def atKey (key : String) (change : Node → Node) (node : Node) : Node :=
  match node.asTable with
  | .table origin members =>
    .table origin (Members.put members key (change ((Members.find? members key).getD .nil)))
  | other => other

/-- The list and the index for a position, which is filled up with nodes of no value if it lies
outside of the list. -/
def reach (items : List Node) (i : Int) : List Node × Nat :=
  if 0 ≤ i then
    (items ++ List.replicate (i.toNat + 1 - items.length) .nil, i.toNat)
  else
    let back := i.natAbs
    (List.replicate (back - items.length) .nil ++ items, items.length - back)

/-- Change the node at a position; anything but a list gives way to an empty one. -/
def atPosition (i : Int) (change : Node → Node) : Node → Node
  | .list origin items =>
    let (items, index) := reach items i
    .list origin (items.modify index change)
  | _ =>
    let (items, index) := reach [] i
    .list none (items.modify index change)

/-- Change the node at a path. -/
def atPath (change : Node → Node) : List Step → Node → Node
  | [], node => change node
  | .key name :: rest, node => node.atKey name (atPath change rest)
  | .position i :: rest, node => node.atPosition i (atPath change rest)

mutual

/-- A node laid over another one. -/
def overlay (lower : Node) : Node → Node
  | .table _ members => overlayMembers lower.asTable members
  | .list origin items => .list origin items
  | .leaf origin value => .leaf origin value

/-- Members laid over a table. -/
def overlayMembers (lower : Node) : List (String × Node) → Node
  | [] => lower
  | (key, node) :: rest => overlayMembers (lower.atKey key fun old => overlay old node) rest

end

/-- Put a node at the place that a key names; a key that is no path stands for itself. -/
def assign (node : Node) (key : String) (value : Node) : Node :=
  let place := (Path.parse? key).getD [.key key]
  node.atPath (fun old => overlay old value) place

end Node

/-- A layer of settings: nodes by the keys that name their places. -/
abbrev Layer := List (String × Node)

/-- Lay a layer over a tree. -/
def Layer.onto (layer : Layer) (node : Node) : Node :=
  layer.foldl (fun node (key, value) => node.assign key value) node

end FeedRelay.Settings
