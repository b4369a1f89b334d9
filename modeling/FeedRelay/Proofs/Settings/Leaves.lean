import FeedRelay.Proofs.Outcome
import FeedRelay.Proofs.Settings.Places
import FeedRelay.Settings.Decode

/-!
# The leaves of the settings

Settings have nine leaves. Each has a place in trees of settings, a type that a node of a tree is
converted to, and a field in the settings and in what is given of them. A tree with sections gives
what the values at the places of the leaves convert to, each by itself (`toGiven_eq_ok_iff`), and
each leaf that is not given has its default (`Leaf.get_complete`).

## Main definitions

* `Leaf`: the leaves, with `Leaf.convert` and the fields `Leaf.get` and `Leaf.get?`.
* `Leaf.valueIn?`, `Node.taken`: the value of a leaf in a tree, and what it converts to.

## Main results

* `Node.toGiven_eq_ok_iff`: what a tree gives.
-/

namespace FeedRelay.Settings

/-- A leaf of the settings. -/
inductive Leaf where
  | host
  | number
  | serviceAddress
  | topics
  | enabled
  | initialDelay
  | maxDelay
  | maxAttempts
  | logLevel
  deriving DecidableEq

namespace Leaf

/-- The name of the section of a leaf. -/
def sectionName : Leaf → String
  | .host | .number => "server"
  | .serviceAddress => "upstream"
  | .topics => "relay"
  | .enabled | .initialDelay | .maxDelay | .maxAttempts => "reconnect"
  | .logLevel => "logging"

/-- The name of a leaf in its section. -/
def name : Leaf → String
  | .host => "host"
  | .number => "port"
  | .serviceAddress => "url"
  | .topics => "topics"
  | .enabled => "enabled"
  | .initialDelay => "initial_delay_ms"
  | .maxDelay => "max_delay_ms"
  | .maxAttempts => "max_attempts"
  | .logLevel => "level"

/-- The type of a leaf. -/
def Value : Leaf → Type
  | .host | .serviceAddress | .logLevel => String
  | .number | .initialDelay | .maxDelay | .maxAttempts => Nat
  | .topics => List TopicEntry
  | .enabled => Bool

/-- How a node is converted to the type of a leaf. -/
def convert : (leaf : Leaf) → Node → Except Fault leaf.Value
  | .host | .serviceAddress | .logLevel => Node.toText
  | .number => Node.toNarrow 16
  | .topics => Node.toList Node.toTopicEntry
  | .enabled => Node.toBool
  | .initialDelay | .maxDelay => Node.toNatural
  | .maxAttempts => Node.toNarrow 32

/-- A leaf of settings. -/
def get (settings : Settings) : (leaf : Leaf) → leaf.Value
  | .host => settings.server.host
  | .number => settings.server.number
  | .serviceAddress => settings.serviceAddress
  | .topics => settings.topics
  | .enabled => settings.reconnect.enabled
  | .initialDelay => settings.reconnect.initialDelay
  | .maxDelay => settings.reconnect.maxDelay
  | .maxAttempts => settings.reconnect.maxAttempts
  | .logLevel => settings.logLevel

/-- A leaf of what is given. -/
def get? (given : Given) : (leaf : Leaf) → Option leaf.Value
  | .host => given.host
  | .number => given.number
  | .serviceAddress => given.serviceAddress
  | .topics => given.topics
  | .enabled => given.enabled
  | .initialDelay => given.initialDelay
  | .maxDelay => given.maxDelay
  | .maxAttempts => given.maxAttempts
  | .logLevel => given.logLevel

/-- What is given leaf by leaf. -/
def given (values : (leaf : Leaf) → Option leaf.Value) : Given where
  host := values .host
  number := values .number
  serviceAddress := values .serviceAddress
  topics := values .topics
  enabled := values .enabled
  initialDelay := values .initialDelay
  maxDelay := values .maxDelay
  maxAttempts := values .maxAttempts
  logLevel := values .logLevel

@[simp] theorem get?_given (values : (leaf : Leaf) → Option leaf.Value) (leaf : Leaf) :
    leaf.get? (Leaf.given values) = values leaf := by
  cases leaf <;> rfl

/-- A leaf is as it is given, or has its default. -/
theorem get_complete (given : Given) (leaf : Leaf) :
    leaf.get given.complete = (leaf.get? given).getD (leaf.get Settings.default) := by
  cases leaf <;> rfl

/-- The value of a leaf in a tree. -/
def valueIn? (leaf : Leaf) (tree : Node) : Option Node :=
  tree.valueAt? leaf.sectionName leaf.name

end Leaf

namespace Node

variable {tree : Node} {given : Given} {α : Type}

/-- What a value that may be missing converts to. -/
def taken (convert : Node → Except Fault α) : Option Node → Except Fault (Option α)
  | none => .ok none
  | some node => (convert node).map some

/-- A field that is named is converted if it is a value. -/
theorem option_named (m : Members) (record name : String) (place : Nat)
    (convert : Node → Except Fault α) :
    (Fields.named m).option record name place convert =
      (taken convert ((Members.find? m name).filter (!·.isNil))).mapError (Fault.under name) := by
  simp only [Fields.option, Fields.get, Members.find?]
  cases List.find? (fun pair => decide (pair.1 = name)) m with
  | none => rfl
  | some pair =>
    cases hnil : pair.2.isNil with
    | true => simp [toOption, hnil, Option.filter, taken]
    | false => simp [toOption, hnil, Option.filter, taken]

/-- The fields of a section of a tree. -/
def part? (tree : Node) (sectionName : String) : Option Fields :=
  ((tree.child? sectionName).filter isTable).map fun part => .named part.members

/-- A section is given if it is a table. -/
theorem toSection_eq (h : tree.IsSectioned) {sectionName : String}
    (hmem : sectionName ∈ sectionNames) (record : String) (place : Nat) :
    toSection (.named tree.members) sectionName record place = .ok (tree.part? sectionName) := by
  rw [toSection, option_named, ← child?, part?]
  cases hpart : tree.child? sectionName with
  | none => rfl
  | some part =>
    rcases h.sections sectionName hmem part hpart with hnil | htable
    · have hnot : part.isTable = false := by
        cases htable : part.isTable with
        | true => exact hnil.symm.trans (isNil_of_isTable htable)
        | false => rfl
      rw [Option.filter_some_neg (by simp [hnil]), Option.filter_some_neg (by simp [hnot])]
      rfl
    · cases part with
      | table origin m => rfl
      | leaf | list => cases htable

/-- A field of a section is converted if there is a value at its place. -/
theorem fieldOf_eq (tree : Node) (sectionName record name : String) (place : Nat)
    (convert : Node → Except Fault α) :
    fieldOf (tree.part? sectionName) sectionName record name place convert =
      (taken convert (tree.valueAt? sectionName name)).mapError
        fun fault => (fault.under name).under sectionName := by
  rw [part?, valueAt?]
  cases hpart : tree.child? sectionName with
  | none => rfl
  | some part =>
    cases part with
    | table origin m =>
      have hoption := option_named m record name place convert
      simp [fieldOf, hoption, Option.filter, isTable, child?, members, mapError_mapError]
    | leaf | list => rfl

theorem taken_eq_ok_none_iff {convert : Node → Except Fault α} {value : Option Node} :
    taken convert value = .ok none ↔ value = none := by
  cases value with
  | none => simp [taken]
  | some node => cases h : convert node <;> simp [taken, h, Except.map]

/-- What a value is taken for is what it converts to. -/
theorem taken_eq_ok_some_iff {convert : Node → Except Fault α} {value : Option Node} {a : α} :
    taken convert value = .ok (some a) ↔ ∃ node, value = some node ∧ convert node = .ok a := by
  cases value with
  | none => simp [taken]
  | some node => cases h : convert node <;> simp [taken, h, Except.map]

/-- What a tree gives: what the values at the places of the leaves convert to. -/
theorem toGiven_eq_ok_iff (h : tree.IsSectioned) :
    tree.toGiven = .ok given ↔
      ∀ leaf : Leaf, taken leaf.convert (leaf.valueIn? tree) = .ok (leaf.get? given) := by
  have hroot : tree.toFields "struct PartialSettings" = .ok (.named tree.members) := by
    have htable := h.isTable
    cases tree with
    | table => rfl
    | leaf | list => cases htable
  have hserver : "server" ∈ sectionNames := by decide
  have hservice : "upstream" ∈ sectionNames := by decide
  have hrelay : "relay" ∈ sectionNames := by decide
  have hreconnect : "reconnect" ∈ sectionNames := by decide
  have hlogging : "logging" ∈ sectionNames := by decide
  simp only [toGiven, bind_eq_ok_iff, hroot, toSection_eq h hserver, toSection_eq h hservice,
    toSection_eq h hrelay, toSection_eq h hreconnect, toSection_eq h hlogging,
    Except.ok.injEq, exists_eq_left', fieldOf_eq, mapError_eq_ok_iff]
  constructor
  · rintro ⟨host, hhost, number, hnumber, serviceAddress, hserviceAddress, topics, htopics, enabled,
      henabled, initialDelay, hinitialDelay, maxDelay, hmaxDelay, maxAttempts, hmaxAttempts,
      logLevel, hlogLevel, hgiven⟩
    obtain rfl := Except.ok.inj hgiven
    intro leaf
    cases leaf with
    | host => exact hhost
    | number => exact hnumber
    | serviceAddress => exact hserviceAddress
    | topics => exact htopics
    | enabled => exact henabled
    | initialDelay => exact hinitialDelay
    | maxDelay => exact hmaxDelay
    | maxAttempts => exact hmaxAttempts
    | logLevel => exact hlogLevel
  · intro hleaf
    exact ⟨_, hleaf .host, _, hleaf .number, _, hleaf .serviceAddress, _, hleaf .topics,
      _, hleaf .enabled, _, hleaf .initialDelay, _, hleaf .maxDelay, _, hleaf .maxAttempts,
      _, hleaf .logLevel, rfl⟩

end Node

end FeedRelay.Settings
