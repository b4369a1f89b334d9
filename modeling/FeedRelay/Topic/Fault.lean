import FeedRelay.Json.Fault

/-!
# Faults of topics

Why something is no topic, or has no web address.
-/

namespace FeedRelay.Topic

/-- The two parts of a topic that name it. -/
inductive Part where
  | name
  | instanceId
  deriving DecidableEq, Repr

/-- The wording of a part. -/
def Part.label : Part → String
  | .name => "topic name"
  | .instanceId => "instance id"

/-- Why something is no topic, or has no web address. -/
inductive Fault where
  | emptyPart (part : Part)
  | slashInPart (part : Part) (value : String)
  | dotPart (part : Part) (value : String)
  | brokenQuery (query : String) (fault : Json.Fault)
  | queryNotObject
  | commaInField (field : String)
  | wrongScheme (base : String)
  | noHierarchy (base : String)
  deriving DecidableEq, Repr

/-- The wording of a fault. -/
def Fault.message : Fault → String
  | .emptyPart part => s!"{part.label} must not be empty"
  | .slashInPart part value => part.label ++ " must not contain '/': '" ++ value ++ "'"
  | .dotPart part value => part.label ++ " must not be '" ++ value ++ "'"
  | .brokenQuery query fault => "could not decode query: " ++ fault.message query.toList
  | .queryNotObject => "query must be a JSON object"
  | .commaInField field => "field name must not contain ',': '" ++ field ++ "'"
  | .wrongScheme base => "upstream url must use ws:// or wss://, got '" ++ base ++ "'"
  | .noHierarchy base => "'" ++ base ++ "' cannot be a base url"

end FeedRelay.Topic
