import FeedRelay.Json.Parser
import FeedRelay.Json.Printer
import FeedRelay.Text.Blank
import FeedRelay.Text.Split
import FeedRelay.Topic.Fault

/-!
# Topics

A topic is the name of a feed, with the id of one of its instances if it has several. A filter
query and a list of fields may narrow what the feed sends; they do not change which topic it
is. The parts that name a topic are trimmed, not empty, hold no slash and are no dot segments,
so the text of a topic reads back as the same topic.
-/

namespace FeedRelay

/-- A feed, or one instance of it, and what is asked of it. -/
structure Topic where
  name : String
  instanceId : Option String
  query : Option Json.Members
  fields : List String
  deriving Repr

namespace Topic

/-- Check one of the parts that name a topic, given without the blanks around it. -/
def checkPart (part : Part) (value : String) : Except Fault String :=
  if value = "" then .error (.emptyPart part)
  else if value.toList.contains '/' then .error (.slashInPart part value)
  else if value = "." ∨ value = ".." then .error (.dotPart part value)
  else .ok value

/-- One of the parts that name a topic. -/
def readPart (part : Part) (text : String) : Except Fault String :=
  checkPart part (Text.trim text)

/-- The topic of a name, and of an instance id if there is one. -/
def ofParts (name : String) (instanceId : Option String) : Except Fault Topic := do
  let name ← readPart .name name
  match instanceId with
  | none => return { name, instanceId := none, query := none, fields := [] }
  | some id =>
    let id ← readPart .instanceId id
    return { name, instanceId := some id, query := none, fields := [] }

/-- The topic of a text: a name, or a name and an instance id with a slash between them. -/
def parse (text : String) : Except Fault Topic :=
  match Text.splitOnce '/' text.toList with
  | some (name, id) => ofParts (String.ofList name) (some (String.ofList id))
  | none => ofParts text none

/-- The topic with a filter query, given as the text of a JSON object. -/
def withQuery (topic : Topic) (query : String) : Except Fault Topic :=
  match Json.parse query with
  | .ok (.object members) => .ok { topic with query := some members }
  | .ok _ => .error .queryNotObject
  | .error fault => .error (.brokenQuery query fault)

/-- The field names of a list: trimmed, without the blank ones, and without commas. -/
def readFields : List String → Except Fault (List String)
  | [] => .ok []
  | text :: rest =>
    let field := Text.trim text
    if field = "" then readFields rest
    else if field.toList.contains ',' then .error (.commaInField field)
    else (readFields rest).map (field :: ·)

/-- The topic with a list of fields in place of those it had. -/
def withFields (topic : Topic) (fields : List String) : Except Fault Topic :=
  (readFields fields).map fun fields => { topic with fields }

/-- The text of a topic: its name, and its instance id behind a slash. -/
def resourcePath (topic : Topic) : String :=
  match topic.instanceId with
  | some id => topic.name ++ "/" ++ id
  | none => topic.name

/-- The key under which a topic is known: its name, and its instance id behind a hyphen. -/
def displayKey (topic : Topic) : String :=
  match topic.instanceId with
  | some id => topic.name ++ "-" ++ id
  | none => topic.name

/-- The compact text of the filter query. -/
def queryText (topic : Topic) : Option String :=
  topic.query.map fun members => (Json.Value.object members).toText

end Topic

end FeedRelay
