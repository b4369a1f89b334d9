import FeedRelay.Text.Form
import FeedRelay.Topic.Basic
import FeedRelay.Url.Basic

/-!
# Where a topic is found

The web address of a topic is that of its service, with one more segment for the name and one
for the instance id, and with the filter query and the fields as form pairs.
-/

namespace FeedRelay.Topic

/-- The form pairs of a topic: its filter query, if it has one, and its fields, if any. -/
def formPairs (topic : Topic) : List (String × String) :=
  (topic.queryText.toList.map fun text => ("query", text)) ++
    if topic.fields.isEmpty then [] else [("fields", String.intercalate "," topic.fields)]

/-- The segments of a topic below those of its service. -/
def pushSegments (topic : Topic) (list : List Url.Segment) : List Url.Segment :=
  let named := Url.Path.push (Url.Path.dropEmptyLast list) topic.name.toList
  match topic.instanceId with
  | some id => Url.Path.push named id.toList
  | none => named

/-- The query of a topic's address; a topic that asks for nothing has none. -/
def addressQuery (topic : Topic) : Option (List Char) :=
  let pairs := topic.formPairs
  if pairs.isEmpty then none else some (Text.Form.encodePairs pairs).toList

/-- The web address of a topic below the address of its service. -/
def url (topic : Topic) (base : Url) : Except Fault Url :=
  if String.ofList base.scheme ∈ ["ws", "wss"] then
    match base.path with
    | .segments list =>
      .ok { base with
        path := .segments (topic.pushSegments list)
        query := topic.addressQuery
        fragment := none }
    | .bare _ => .error (.noHierarchy base.toText)
  else .error (.wrongScheme base.toText)

end FeedRelay.Topic
