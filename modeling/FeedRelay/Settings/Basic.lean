import FeedRelay.Failure
import FeedRelay.ReconnectPolicy
import FeedRelay.Topic.Basic
import FeedRelay.Url.Reader

/-!
# Settings

What the relay can be told: where to serve its clients, where the service is that it takes
feeds from, which topics to relay, whether to connect again after an outage, and how much to
log. Settings may be given in part; the rest has defaults.
-/

namespace FeedRelay

namespace Settings

/-- Where clients are served. -/
structure Server where
  host : String
  number : Nat
  deriving DecidableEq, Repr

/-- A topic to relay, as it is written down. -/
structure TopicEntry where
  name : String
  instanceId : Option String
  query : Option String
  fields : List String
  deriving DecidableEq, Repr

/-- Whether and when to connect again, with delays in milliseconds. -/
structure Reconnect where
  enabled : Bool
  initialDelay : Nat
  maxDelay : Nat
  maxAttempts : Nat
  deriving DecidableEq, Repr

end Settings

/-- The settings of the relay. -/
structure Settings where
  server : Settings.Server
  serviceAddress : String
  topics : List Settings.TopicEntry
  reconnect : Settings.Reconnect
  logLevel : String
  deriving DecidableEq, Repr

namespace Settings

/-- The address to listen on. -/
def Server.address (server : Server) : String :=
  server.host ++ ":" ++ toString server.number

/-- The topic of an entry. -/
def TopicEntry.toTopic (entry : TopicEntry) : Except Topic.Fault Topic := do
  let topic ← Topic.ofParts entry.name entry.instanceId
  let topic ← match entry.query with
    | some query => topic.withQuery query
    | none => pure topic
  topic.withFields entry.fields

/-- The policy of reconnect settings. -/
def Reconnect.policy (r : Reconnect) : ReconnectPolicy :=
  { (ReconnectPolicy.exponential (.ofMilliseconds r.initialDelay)
      (.ofMilliseconds r.maxDelay)).withMaxAttempts r.maxAttempts with
    enabled := r.enabled }

/-- The web address of the service. -/
def baseUrl (settings : Settings) : Except Failure Url :=
  (Url.parse settings.serviceAddress).mapError .malformedAddress

/-- The topics of a list of entries. -/
def toTopics (entries : List TopicEntry) : Except Failure (List Topic) :=
  (entries.mapM TopicEntry.toTopic).mapError .invalidTopic

/-- The settings that are used where nothing is given. -/
def default : Settings where
  server := { host := "127.0.0.1", number := 7171 }
  serviceAddress := "ws://localhost:8888/subscribe/"
  topics := [{ name := "measurement", instanceId := none, query := none, fields := [] }]
  reconnect := { enabled := false, initialDelay := 500, maxDelay := 8000, maxAttempts := 0 }
  logLevel := "info"

/-- Settings of which any may be missing. -/
structure Given where
  host : Option String
  number : Option Nat
  serviceAddress : Option String
  topics : Option (List TopicEntry)
  enabled : Option Bool
  initialDelay : Option Nat
  maxDelay : Option Nat
  maxAttempts : Option Nat
  logLevel : Option String
  deriving DecidableEq, Repr

/-- What is given, and the defaults for the rest. -/
def Given.complete (given : Given) : Settings where
  server :=
    { host := given.host.getD default.server.host
      number := given.number.getD default.server.number }
  serviceAddress := given.serviceAddress.getD default.serviceAddress
  topics := given.topics.getD default.topics
  reconnect :=
    { enabled := given.enabled.getD default.reconnect.enabled
      initialDelay := given.initialDelay.getD default.reconnect.initialDelay
      maxDelay := given.maxDelay.getD default.reconnect.maxDelay
      maxAttempts := given.maxAttempts.getD default.reconnect.maxAttempts }
  logLevel := given.logLevel.getD default.logLevel

end Settings

end FeedRelay
