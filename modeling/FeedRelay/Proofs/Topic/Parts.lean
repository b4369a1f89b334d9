import FeedRelay.Proofs.Outcome
import FeedRelay.Topic.Basic

/-!
# The parts of accepted topics

A topic is accepted if it was made of a name and perhaps an instance id, or read from a text, and
perhaps narrowed by a query and by fields. Each of the parts that name it is a part: trimmed, not
empty, without slashes and no dot segment (`Topic.Accepted.isPart`).
-/

namespace FeedRelay

namespace Topic

/-- A text that may name a topic or an instance of it. -/
structure IsPart (text : String) : Prop where
  ne_empty : text ≠ ""
  slash_notMem : '/' ∉ text.toList
  ne_here : text ≠ "."
  ne_up : text ≠ ".."
  head : ∀ c, text.toList.head? = some c → Text.isBlank c = false
  last : ∀ c, text.toList.getLast? = some c → Text.isBlank c = false

/-- The ways in which topics come about. -/
inductive Accepted : Topic → Prop
  | ofParts {name : String} {instanceId : Option String} {t : Topic}
      (h : Topic.ofParts name instanceId = .ok t) : Accepted t
  | parse {text : String} {t : Topic} (h : Topic.parse text = .ok t) : Accepted t
  | withQuery {t u : Topic} {query : String} (ht : Accepted t) (h : t.withQuery query = .ok u) :
      Accepted u
  | withFields {t u : Topic} {fields : List String} (ht : Accepted t)
      (h : t.withFields fields = .ok u) : Accepted u

/-- The parts that name a topic. -/
def parts (t : Topic) : List String :=
  t.name :: t.instanceId.toList

variable {t u : Topic} {part : Part} {text value : String}

theorem isPart_of_readPart (h : readPart part text = .ok value) : IsPart value := by
  unfold readPart checkPart at h
  split at h
  · cases h
  · rename_i hempty
    split at h
    · cases h
    · rename_i hslash
      split at h
      · cases h
      · rename_i hdots
        obtain rfl := Except.ok.inj h
        obtain ⟨hhere, hup⟩ := not_or.mp hdots
        refine ⟨hempty, by simpa using hslash, hhere, hup, fun c hc => ?_, fun c hc => ?_⟩
        · rw [Text.trim, String.toList_ofList] at hc
          exact Text.isBlank_of_head?_trimChars hc
        · rw [Text.trim, String.toList_ofList] at hc
          exact Text.isBlank_of_getLast?_trimChars hc

theorem isPart_of_ofParts {name : String} {instanceId : Option String}
    (h : ofParts name instanceId = .ok t) : ∀ part ∈ t.parts, IsPart part := by
  obtain ⟨first, hname, h⟩ := exists_of_bind_eq_ok h
  cases instanceId with
  | none =>
    cases h
    simpa [parts] using isPart_of_readPart hname
  | some id =>
    obtain ⟨second, hid, h⟩ := exists_of_bind_eq_ok h
    cases h
    simpa [parts] using ⟨isPart_of_readPart hname, isPart_of_readPart hid⟩

theorem eq_of_ofParts {name : String} {instanceId : Option String}
    (h : ofParts name instanceId = .ok t) :
    t = { name := t.name, instanceId := t.instanceId, query := none, fields := [] } := by
  obtain ⟨first, -, h⟩ := exists_of_bind_eq_ok h
  cases instanceId with
  | none =>
    cases h
    rfl
  | some id =>
    obtain ⟨second, -, h⟩ := exists_of_bind_eq_ok h
    cases h
    rfl

/-- A topic that is read from a text is one of the parts in the text. -/
theorem exists_of_parse (h : parse text = .ok t) :
    ∃ name instanceId, ofParts name instanceId = .ok t := by
  unfold parse at h
  split at h
  · exact ⟨_, _, h⟩
  · exact ⟨_, _, h⟩

theorem exists_of_withQuery {query : String} (h : t.withQuery query = .ok u) :
    ∃ members, Json.parse query = .ok (.object members) ∧ u = { t with query := some members } := by
  unfold withQuery at h
  split at h
  · rename_i members hparse
    exact ⟨members, hparse, (Except.ok.inj h).symm⟩
  · cases h
  · cases h

theorem exists_of_withFields {texts : List String} (h : t.withFields texts = .ok u) :
    ∃ kept, readFields texts = .ok kept ∧ u = { t with fields := kept } := by
  obtain ⟨kept, hkept, rfl⟩ := exists_of_map_eq_ok h
  exact ⟨kept, hkept, rfl⟩

theorem parts_withQuery {query : String} (h : t.withQuery query = .ok u) : u.parts = t.parts := by
  obtain ⟨members, -, rfl⟩ := exists_of_withQuery h
  rfl

theorem parts_withFields {fields : List String} (h : t.withFields fields = .ok u) :
    u.parts = t.parts := by
  obtain ⟨kept, -, rfl⟩ := exists_of_withFields h
  rfl

/-- The parts of an accepted topic are parts. -/
theorem Accepted.isPart (h : t.Accepted) : ∀ part ∈ t.parts, IsPart part := by
  induction h with
  | ofParts h => exact isPart_of_ofParts h
  | parse h =>
    obtain ⟨name, instanceId, h⟩ := exists_of_parse h
    exact isPart_of_ofParts h
  | withQuery _ h ih =>
    rw [parts_withQuery h]
    exact ih
  | withFields _ h ih =>
    rw [parts_withFields h]
    exact ih

end Topic

end FeedRelay
