import FeedRelay.Settings.Basic
import FeedRelay.Settings.Convert

/-!
# Settings from a tree

The sections of a tree of settings and their fields. Sections and fields may be missing; keys
that nobody asks for are not looked at.
-/

namespace FeedRelay.Settings.Node

/-- A field that may be missing in any way. -/
def Fields.defaulted {α : Type} (fields : Fields) (name : String) (place : Nat)
    (convert : Node → Except Fault α) (value : α) : Except Fault α :=
  fields.get name place convert (.ok value) (.ok value)

/-- The words for an entry of a topic. -/
def topicRecord : String := "struct TopicSettings"

/-- The entry of a topic. Its name has to be given; if everything else is right but the name is
missing, that is the fault. -/
def toTopicEntry (node : Node) : Except Fault TopicEntry := do
  let fields ← node.toFields topicRecord
  let name ← fields.get "name" 0 (fun node => (toText node).map some) (.ok none)
    (.error (.tooShort 0 (topicRecord ++ " with 4 elements") ""))
  let instanceId ← fields.defaulted "instance" 1 (toOption toText) none
  let query ← fields.defaulted "query" 2 (toOption toText) none
  let list ← fields.defaulted "fields" 3 (toList toText) []
  match name with
  | some name => return { name, instanceId, query, fields := list }
  | none => throw (.missing "name")

/-- The fields of a section, if it is given. -/
def toSection (root : Fields) (name record : String) (place : Nat) :
    Except Fault (Option Fields) :=
  root.option "" name place (toFields record)

/-- A field of a section that may be missing, with the section's name in faults. -/
def fieldOf {α : Type} (fields : Option Fields) (sectionName record : String)
    (name : String) (place : Nat) (convert : Node → Except Fault α) : Except Fault (Option α) :=
  match fields with
  | none => .ok none
  | some fields => (fields.option record name place convert).mapError (Fault.under sectionName)

/-- The words for a record of some fields. -/
def counted (record : String) (count : Nat) : String :=
  record ++ s!" with {count} element" ++ if count = 1 then "" else "s"

/-- What a tree of settings gives. -/
def toGiven (node : Node) : Except Fault Given := do
  let root ← node.toFields "struct PartialSettings"
  let serverRecord := "struct PartialServerSettings"
  let server ← toSection root "server" serverRecord 0
  let host ← fieldOf server "server" (counted serverRecord 2) "host" 0 toText
  let number ← fieldOf server "server" (counted serverRecord 2) "port" 1 (toNarrow 16)
  let serviceRecord := "struct PartialUpstreamSettings"
  let service ← toSection root "upstream" serviceRecord 1
  let serviceAddress ← fieldOf service "upstream" (counted serviceRecord 1) "url" 0 toText
  let relayRecord := "struct PartialRelaySettings"
  let relay ← toSection root "relay" relayRecord 2
  let topics ← fieldOf relay "relay" (counted relayRecord 1) "topics" 0 (toList toTopicEntry)
  let reconnectRecord := "struct PartialReconnectSettings"
  let reconnect ← toSection root "reconnect" reconnectRecord 3
  let record := counted reconnectRecord 4
  let enabled ← fieldOf reconnect "reconnect" record "enabled" 0 toBool
  let initialDelay ← fieldOf reconnect "reconnect" record "initial_delay_ms" 1 toNatural
  let maxDelay ← fieldOf reconnect "reconnect" record "max_delay_ms" 2 toNatural
  let maxAttempts ← fieldOf reconnect "reconnect" record "max_attempts" 3 (toNarrow 32)
  let loggingRecord := "struct PartialLoggingSettings"
  let logging ← toSection root "logging" loggingRecord 4
  let logLevel ← fieldOf logging "logging" (counted loggingRecord 1) "level" 0 toText
  return {
    host, number, serviceAddress, topics, enabled, initialDelay, maxDelay, maxAttempts,
    logLevel }

end FeedRelay.Settings.Node
