import FeedRelay.Proofs.Json.RoundTrip
import FeedRelay.Proofs.Text.FormPairs
import FeedRelay.Proofs.Topic.Paths

/-!
# Reading topics off their addresses

The address of a topic spells the topic out: its last segments stand for the parts that name it,
and the form pairs of its query are the text of the filter query and the fields with commas between
them (`Topic.Spelling`). A topic from whose parts nothing vanishes and whose query holds whole
numbers only is read off its address again (`Topic.url_reads_back`).
-/

namespace FeedRelay

/-- The form pairs in the query of an address. -/
def Url.formPairs (a : Url) : List (String × String) :=
  (a.query.map fun text => Text.Form.decodePairs (String.ofList text)).getD []

/-- The text that a segment stands for. -/
def Url.Path.spelled (s : Segment) : String :=
  String.ofList (Text.Utf8.decodeLossy (Text.Percent.decode s))

namespace Topic

open Url.Path (visible spelled)

/-! ### Fields and queries of accepted topics -/

/-- A text that may be a field of a topic. -/
structure IsField (text : String) : Prop where
  ne_empty : text ≠ ""
  comma_notMem : ',' ∉ text.toList
  trimmed : Text.trim text = text

variable {t u : Topic} {texts fields : List String}

theorem isField_of_readFields (h : readFields texts = .ok fields) : ∀ f ∈ fields, IsField f := by
  induction texts generalizing fields with
  | nil =>
    cases h
    simp
  | cons text texts ih =>
    unfold readFields at h
    dsimp only at h
    split at h
    · exact ih h
    · rename_i hempty
      split at h
      · cases h
      · rename_i hcomma
        obtain ⟨others, hothers, rfl⟩ := exists_of_map_eq_ok h
        refine List.forall_mem_cons.mpr ⟨⟨hempty, by simpa using hcomma, ?_⟩, ih hothers⟩
        exact Text.trim_trim text

/-- Fields of a topic are fields as they stand. -/
theorem readFields_of_isField (h : ∀ f ∈ fields, IsField f) : readFields fields = .ok fields := by
  induction fields with
  | nil => rfl
  | cons f fields ih =>
    obtain ⟨hf, hfields⟩ := List.forall_mem_cons.mp h
    rw [readFields, hf.trimmed, if_neg hf.ne_empty, if_neg (by simp [hf.comma_notMem]), ih hfields]
    rfl

theorem Accepted.isField (h : t.Accepted) : ∀ f ∈ t.fields, IsField f := by
  induction h with
  | ofParts h =>
    rw [eq_of_ofParts h]
    simp
  | parse h =>
    obtain ⟨name, instanceId, h⟩ := exists_of_parse h
    rw [eq_of_ofParts h]
    simp
  | withQuery _ h ih =>
    obtain ⟨members, -, rfl⟩ := exists_of_withQuery h
    exact ih
  | withFields _ h ih =>
    obtain ⟨kept, hkept, rfl⟩ := exists_of_withFields h
    exact isField_of_readFields hkept

/-- The query of an accepted topic was read from a text. -/
theorem Accepted.regular (h : t.Accepted) :
    ∀ members, t.query = some members → (Json.Value.object members).Regular Json.depthLimit := by
  induction h with
  | ofParts h =>
    rw [eq_of_ofParts h]
    simp
  | parse h =>
    obtain ⟨name, instanceId, h⟩ := exists_of_parse h
    rw [eq_of_ofParts h]
    simp
  | withQuery _ h ih =>
    obtain ⟨members, hparse, rfl⟩ := exists_of_withQuery h
    intro others hothers
    obtain rfl := Option.some.inj hothers
    exact Json.regular_of_parse hparse
  | withFields _ h ih =>
    obtain ⟨kept, -, rfl⟩ := exists_of_withFields h
    exact ih

theorem readPart_of_isPart (part : Part) {text : String} (h : IsPart text) :
    readPart part text = .ok text := by
  rw [readPart, Text.trim_of_ends h.head h.last, checkPart, if_neg h.ne_empty,
    if_neg (by simp [h.slash_notMem]), if_neg (by simp [h.ne_here, h.ne_up])]

/-- The parts of a topic name it as they stand. -/
theorem ofParts_of_isPart (h : ∀ part ∈ t.parts, IsPart part) :
    ofParts t.name t.instanceId =
      .ok { name := t.name, instanceId := t.instanceId, query := none, fields := [] } := by
  have hname := readPart_of_isPart .name (h t.name List.mem_cons_self)
  unfold ofParts
  rw [hname]
  cases hid : t.instanceId with
  | none => rfl
  | some id =>
    have hid := readPart_of_isPart .instanceId (h id (by simp [parts, hid]))
    change (readPart .instanceId id >>= _) = _
    rw [hid]
    rfl

/-! ### Spellings -/

/-- What an address says of a topic: the segments that name it, and the texts of the filter query
and of the fields. -/
structure Spelling where
  name : Url.Segment
  instanceId : Option Url.Segment
  query : Option String
  fields : Option String

namespace Spelling

/-- The address ends with the segments of the spelling, asks for its texts and for nothing else, and
has no fragment. -/
structure LiesIn (s : Spelling) (a : Url) : Prop where
  path : ∃ front, a.path = .segments (front ++ s.name :: s.instanceId.toList)
  formPairs : a.formPairs = s.query.toList.map ("query", ·) ++ s.fields.toList.map ("fields", ·)
  query : a.query = none ↔ s.query = none ∧ s.fields = none
  fragment : a.fragment = none

/-- The topic that is spelled: that of the parts, narrowed by the query and by the fields if they
are given. -/
def read (s : Spelling) : Except Fault Topic := do
  let named ← ofParts (spelled s.name) (s.instanceId.map spelled)
  let asked ← s.query.elim (.ok named) named.withQuery
  s.fields.elim (.ok asked) fun text =>
    asked.withFields ((Text.split ',' text.toList).map String.ofList)

end Spelling

/-- How the address of a topic spells it. -/
def spelling (t : Topic) : Spelling where
  name := Url.Path.segment t.name.toList
  instanceId := t.instanceId.map (Url.Path.segment ·.toList)
  query := t.queryText
  fields := if t.fields = [] then none else some (String.intercalate "," t.fields)

/-! ### Reading spellings -/

theorem visible_of_shown {text : String} (h : ∀ c ∈ text.toList, c ≠ '\t' ∧ c ≠ '\n' ∧ c ≠ '\r') :
    visible text.toList = text.toList := by
  refine List.filter_eq_self.mpr fun c hc => ?_
  obtain ⟨htab, hfeed, hreturn⟩ := h c hc
  simp [Url.Path.vanishes, htab, hfeed, hreturn]

/-- The segment of a text from which nothing vanishes stands for the text. -/
theorem spelled_segment {text : String} (h : visible text.toList = text.toList) :
    spelled (Url.Path.segment text.toList) = text := by
  rw [spelled, Url.Path.decode_segment, h, Text.Utf8.decodeLossy_encode, String.ofList_toList]

theorem not_hidesDots_of_shown (ht : t.Accepted)
    (hshown : ∀ part ∈ t.parts, ∀ c ∈ part.toList, c ≠ '\t' ∧ c ≠ '\n' ∧ c ≠ '\r') :
    ¬t.HidesDots := by
  rintro ⟨part, hpart, hdots⟩
  rw [visible_of_shown (hshown part hpart)] at hdots
  exact (ht.isPart part hpart).ne_up (String.toList_inj.mp hdots)

/-- Fields with commas between them are told apart again. -/
theorem split_fields (h : ∀ f ∈ fields, IsField f) (hfields : fields ≠ []) :
    (Text.split ',' (String.intercalate "," fields).toList).map String.ofList = fields := by
  have hcomma : ∀ part ∈ fields.map String.toList, ',' ∉ part := by
    intro part hpart
    obtain ⟨f, hf, rfl⟩ := List.mem_map.mp hpart
    exact (h f hf).comma_notMem
  rw [String.toList_intercalate]
  change (Text.split ',' (List.intercalate [','] _)).map _ = _
  rw [Text.split_intercalate hcomma (by simpa using hfields), List.map_map]
  exact (List.map_congr_left fun f _ => String.ofList_toList).trans (List.map_id _)

/-- A query of whole numbers is read from its text. -/
theorem withQuery_toText {members : Json.Members}
    (h : (Json.Value.object members).Regular Json.depthLimit)
    (hwhole : ¬(Json.Value.object members).HoldsReal) (t : Topic) :
    t.withQuery (Json.Value.object members).toText = .ok { t with query := some members } := by
  rw [withQuery, Json.parse_toText h hwhole]

theorem withFields_split (h : ∀ f ∈ fields, IsField f) (hfields : fields ≠ []) (t : Topic) :
    t.withFields ((Text.split ',' (String.intercalate "," fields).toList).map String.ofList) =
      .ok { t with fields := fields } := by
  rw [split_fields h hfields, withFields, readFields_of_isField h]
  rfl

section

variable (ht : t.Accepted)
    (hshown : ∀ part ∈ t.parts, ∀ c ∈ part.toList, c ≠ '\t' ∧ c ≠ '\n' ∧ c ≠ '\r')
    (hwhole : ∀ members, t.query = some members → ¬(Json.Value.object members).HoldsReal)

include hshown in
theorem spelled_spelling :
    spelled t.spelling.name = t.name ∧ t.spelling.instanceId.map spelled = t.instanceId := by
  have hpart {part : String} (h : part ∈ t.parts) :
      spelled (Url.Path.segment part.toList) = part :=
    spelled_segment (visible_of_shown (hshown part h))
  refine ⟨hpart List.mem_cons_self, ?_⟩
  rw [spelling, Option.map_map]
  cases hid : t.instanceId with
  | none => rfl
  | some id => exact congrArg some (hpart (by simp [parts, hid]))

include ht hshown hwhole in
/-- A topic is read from its spelling. -/
theorem read_spelling : t.spelling.read = .ok t := by
  obtain ⟨hname, hid⟩ := spelled_spelling hshown
  have hquery : t.spelling.query.elim (.ok ⟨t.name, t.instanceId, none, []⟩)
      (withQuery ⟨t.name, t.instanceId, none, []⟩) =
        .ok ⟨t.name, t.instanceId, t.query, []⟩ := by
    cases hq : t.query with
    | none =>
      simp only [spelling, queryText, hq]
      rfl
    | some members =>
      simp only [spelling, queryText, hq]
      exact withQuery_toText (ht.regular members hq) (hwhole members hq) _
  have hfields : (t.spelling.fields.elim (.ok ⟨t.name, t.instanceId, t.query, []⟩) fun text =>
      withFields ⟨t.name, t.instanceId, t.query, []⟩
        ((Text.split ',' text.toList).map String.ofList)) = .ok t := by
    by_cases hf : t.fields = []
    · simp only [spelling, if_pos hf]
      rw [Option.elim_none, ← hf]
    · simp only [spelling, if_neg hf]
      exact withFields_split ht.isField hf _
  rw [Spelling.read, hname, hid, ofParts_of_isPart ht.isPart]
  change (t.spelling.query.elim (.ok ⟨t.name, t.instanceId, none, []⟩)
    (withQuery ⟨t.name, t.instanceId, none, []⟩) >>= _) = _
  rw [hquery]
  exact hfields

include ht hshown in
/-- An address with the segments and the query of a topic spells the topic. -/
theorem liesIn_spelling {a : Url} {list : List Url.Segment}
    (hpath : a.path = .segments (t.pushSegments list)) (hquery : a.query = t.addressQuery)
    (hfragment : a.fragment = none) : t.spelling.LiesIn a := by
  have hpairs : t.formPairs = t.spelling.query.toList.map ("query", ·) ++
      t.spelling.fields.toList.map ("fields", ·) := by
    cases hf : t.fields <;> simp [formPairs, spelling, hf]
  have hnone : t.formPairs = [] ↔ t.spelling.query = none ∧ t.spelling.fields = none := by
    rw [hpairs]
    cases t.spelling.query <;> cases t.spelling.fields <;> simp
  refine ⟨?_, ?_, ?_, hfragment⟩
  · have hsegments : t.parts.map (Url.Path.segment ·.toList) =
        t.spelling.name :: t.spelling.instanceId.toList := by
      cases hid : t.instanceId <;> simp [parts, spelling, hid]
    rw [hpath, pushSegments_eq_append ht (not_hidesDots_of_shown ht hshown), hsegments]
    exact ⟨_, rfl⟩
  · rw [← hpairs, Url.formPairs, hquery, addressQuery]
    by_cases hempty : t.formPairs = []
    · simp [hempty]
    · simp [hempty, Text.Form.decodePairs_encodePairs]
  · rw [hquery, ← hnone, addressQuery]
    by_cases hempty : t.formPairs = [] <;> simp [hempty]

end

/-- **A topic is read off its address.** Let nothing vanish from the parts of an accepted topic and
let its filter query hold whole numbers only. Below any websocket address the topic has an address
that spells it: the last segments stand for the name and the instance id, the query is that of the
topic alone and holds the pair of the filter query and that of the fields, each if and only if the
topic has it, and nothing else, and there is no fragment. What is spelled there is the topic. -/
theorem url_reads_back {text : String} {base : Url} (ht : t.Accepted)
    (hbase : Url.parse text = .ok base) (hscheme : String.ofList base.scheme ∈ ["ws", "wss"])
    (hshown : ∀ part ∈ t.parts, ∀ c ∈ part.toList, c ≠ '\t' ∧ c ≠ '\n' ∧ c ≠ '\r')
    (hwhole : ∀ members, t.query = some members → ¬(Json.Value.object members).HoldsReal) :
    ∃ (a : Url) (s : Spelling), t.url base = .ok a ∧ a.query = t.addressQuery ∧ s.LiesIn a ∧
      spelled s.name = t.name ∧ s.instanceId.map spelled = t.instanceId ∧
      (s.query.isSome ↔ t.query.isSome) ∧ (s.fields.isSome ↔ t.fields ≠ []) ∧
      s.read = .ok t := by
  obtain ⟨list, hpath⟩ := Url.exists_segments_of_parse hbase hscheme
  obtain ⟨hname, hid⟩ := spelled_spelling hshown
  have hurl : t.url base = .ok { base with
      path := .segments (t.pushSegments list)
      query := t.addressQuery
      fragment := none } := by
    rw [Topic.url, if_pos hscheme, hpath]
  refine ⟨_, t.spelling, hurl, rfl, liesIn_spelling ht hshown rfl rfl rfl, hname, hid, ?_, ?_,
    read_spelling ht hshown hwhole⟩
  · simp [spelling, queryText]
  · by_cases hf : t.fields = [] <;> simp [spelling, hf]

/-- The address of a service with a query and a fragment of its own. -/
def marked : Url where
  scheme := "wss".toList
  authority := some ⟨[], none, .domain ['h'], none⟩
  path := .segments ["a".toList, []]
  query := some "x=1".toList
  fragment := some "top".toList

theorem parse_marked : Url.parse "wss://h/a/?x=1#top" = .ok marked := by cbv

/-- A topic with an instance id, a filter query and fields. -/
def measured : Topic where
  name := "m é"
  instanceId := some "2"
  query := some [("a", .integer (-7)), ("b", .array [.string "x&y", .null])]
  fields := ["t", "v w"]

theorem regular_measured (members : Json.Members) (h : measured.query = some members) :
    (Json.Value.object members).Regular Json.depthLimit := by
  obtain rfl := Option.some.inj h
  refine .object (by decide) ?_
  simp only [List.forall_mem_cons]
  refine ⟨.integer (by decide) (by decide), .array ?_, by simp⟩
  simp only [List.forall_mem_cons]
  exact ⟨.string _, .null, by simp⟩

theorem not_holdsReal_measured (members : Json.Members) (h : measured.query = some members) :
    ¬(Json.Value.object members).HoldsReal := by
  obtain rfl := Option.some.inj h
  rintro (_ | _ | ⟨hmem, hreal⟩)
  simp only [List.mem_cons, List.not_mem_nil, or_false] at hmem
  rcases hmem with rfl | rfl
  · nomatch hreal
  · obtain _ | ⟨hitem, hreal⟩ := hreal
    simp only [List.mem_cons, List.not_mem_nil, or_false] at hitem
    rcases hitem with rfl | rfl <;> nomatch hreal

theorem accepted_measured : measured.Accepted := by
  have hparts : ofParts " m é" (some "2") = .ok ⟨"m é", some "2", none, []⟩ := by rfl
  have hquery : withQuery ⟨"m é", some "2", none, []⟩ "\x7b\"a\":-7,\"b\":[\"x&y\",null]\x7d" =
      .ok { measured with fields := [] } :=
    withQuery_toText (regular_measured _ rfl) (not_holdsReal_measured _ rfl) _
  have hfields : withFields { measured with fields := [] } ["t ", "", "v w"] = .ok measured := by
    rfl
  exact .withFields (.withQuery (.ofParts hparts) hquery) hfields

/-- The topic is read off its address below a service that has a query and a fragment. -/
theorem measured_reads_back :
    measured.Accepted ∧ Url.parse "wss://h/a/?x=1#top" = .ok marked ∧
      String.ofList marked.scheme ∈ ["ws", "wss"] ∧
      ∃ (a : Url) (s : Spelling), measured.url marked = .ok a ∧
        a.query = measured.addressQuery ∧ s.LiesIn a ∧ s.read = .ok measured := by
  have hscheme : String.ofList marked.scheme ∈ ["ws", "wss"] := by decide
  have hshown : ∀ part ∈ measured.parts, ∀ c ∈ part.toList, c ≠ '\t' ∧ c ≠ '\n' ∧ c ≠ '\r' := by
    simp [parts, measured]
  obtain ⟨a, s, ha, hquery, hlies, -, -, -, -, hread⟩ :=
    url_reads_back accepted_measured parse_marked hscheme hshown not_holdsReal_measured
  exact ⟨accepted_measured, parse_marked, hscheme, a, s, ha, hquery, hlies, hread⟩

end Topic

end FeedRelay
