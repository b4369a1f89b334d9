import Mathlib
import FeedRelay.Proofs.Text.Encoding
import FeedRelay.Proofs.Topic.Parts
import FeedRelay.Proofs.Topic.ServiceAddress

/-!
# Where topics lie below an address

The address of a topic is that of its service with one more segment for the name and one for the
instance id. Tabs and line ends vanish from an address before its dot segments are followed, so a
part of a topic may turn into two dots although it is none (`Topic.HidesDots`). Such a topic does
not lie below its service. All others do, each with one segment that is not empty for each of its
parts, and two of them lie at the same place if and only if they differ in nothing but tabs and
line ends (`Topic.url_path_iff`).
-/

namespace FeedRelay

namespace Url.Path

/-- The segment of a text that is appended on its own. -/
def segment (text : List Char) : Segment :=
  Text.Percent.encode keepInSegment (visible text)

/-- The segments of a path without the empty one that a slash at its end makes. -/
def stem (list : List Segment) : List Segment :=
  if list.getLast? = some [] then list.dropLast else list

/-! ### Dot segments -/

theorem keepInSegment_percent : keepInSegment '%' = false := by decide

theorem segment_ne_nil {text : List Char} (h : visible text ≠ []) : segment text ≠ [] := fun hnil =>
  h (Text.Percent.encode_injective keepInSegment_percent hnil)

private theorem eq_of_toLower {c d : Char} (h : c.toLower = d) (hd : d.isLower = false) :
    c = d := by
  unfold Char.toLower at h
  split at h
  · rename_i hc
    subst h
    simp only [Char.isLower, UInt32.le_iff_toNat_le] at hd hc
    simp at hd hc
    omega
  · exact h

private theorem eq_of_toLower_e {c : Char} (h : c.toLower = 'e') : c = 'e' ∨ c = 'E' := by
  unfold Char.toLower at h
  split at h
  · rename_i hc
    refine Or.inr ?_
    simp only [Char.ext_iff, UInt32.le_iff_toNat_le, ← UInt32.toNat_inj] at h hc ⊢
    simp at h hc ⊢
    omega
  · exact Or.inl h

private theorem eq_of_map_toLower_dot {s : Segment} (h : s.map Char.toLower = ['.']) :
    s = ['.'] := by
  obtain ⟨c, rest, rfl, hc, hrest⟩ := List.map_eq_cons_iff.mp h
  rw [eq_of_toLower hc rfl, List.map_eq_nil_iff.mp hrest]

private theorem eq_of_map_toLower_encoded {s : Segment}
    (h : s.map Char.toLower = ['%', '2', 'e']) : s = ['%', '2', 'e'] ∨ s = ['%', '2', 'E'] := by
  obtain ⟨a, _, rfl, ha, h⟩ := List.map_eq_cons_iff.mp h
  obtain ⟨b, _, rfl, hb, h⟩ := List.map_eq_cons_iff.mp h
  obtain ⟨c, rest, rfl, hc, hrest⟩ := List.map_eq_cons_iff.mp h
  rw [eq_of_toLower ha rfl, eq_of_toLower hb rfl, List.map_eq_nil_iff.mp hrest]
  rcases eq_of_toLower_e hc with rfl | rfl <;> simp

/-- What spells a dot, encoded or not, stands for a dot, whatever follows. -/
theorem decode_append_of_isHere {s : Segment} (h : isHere s = true) (rest : List Char) :
    Text.Percent.decode (s ++ rest) = Text.Utf8.encodeChar '.' ++ Text.Percent.decode rest := by
  simp only [isHere, decide_eq_true_eq, List.mem_cons, List.not_mem_nil, or_false] at h
  rcases h with h | h
  · rw [eq_of_map_toLower_dot h]
    exact Text.Percent.decode_cons (by decide) rest
  · rcases eq_of_map_toLower_encoded h with rfl | rfl <;> rfl

/-- What spells two dots is twice what spells a dot. -/
theorem exists_isHere_of_isUp {s : Segment} (h : isUp s = true) :
    ∃ a b, s = a ++ b ∧ isHere a = true ∧ isHere b = true := by
  have hsplit (x y : List Char) (hx : x ∈ [['.'], ['%', '2', 'e']])
      (hy : y ∈ [['.'], ['%', '2', 'e']]) (hs : s.map Char.toLower = x ++ y) :
      ∃ a b, s = a ++ b ∧ isHere a = true ∧ isHere b = true := by
    obtain ⟨a, b, rfl, rfl, rfl⟩ := List.map_eq_append_iff.mp hs
    exact ⟨a, b, rfl, by simpa [isHere] using hx, by simpa [isHere] using hy⟩
  simp only [isUp, decide_eq_true_eq, List.mem_cons, List.not_mem_nil, or_false] at h
  rcases h with h | h | h | h
  · exact hsplit ['.'] ['.'] (by simp) (by simp) h
  · exact hsplit ['.'] ['%', '2', 'e'] (by simp) (by simp) h
  · exact hsplit ['%', '2', 'e'] ['.'] (by simp) (by simp) h
  · exact hsplit ['%', '2', 'e'] ['%', '2', 'e'] (by simp) (by simp) h

theorem decode_of_isHere {s : Segment} (h : isHere s = true) :
    Text.Percent.decode s = Text.Utf8.encode ['.'] := by
  have hdot := decode_append_of_isHere h []
  rwa [List.append_nil] at hdot

theorem decode_of_isUp {s : Segment} (h : isUp s = true) :
    Text.Percent.decode s = Text.Utf8.encode ['.', '.'] := by
  obtain ⟨a, b, rfl, ha, hb⟩ := exists_isHere_of_isUp h
  rw [decode_append_of_isHere ha, decode_of_isHere hb]
  rfl

/-- A segment stands for the visible characters of its text. -/
theorem decode_segment (text : List Char) :
    Text.Percent.decode (segment text) = Text.Utf8.encode (visible text) :=
  Text.Percent.decode_encode keepInSegment_percent _

/-- The segment of a text is two dots only if two dots are all that is visible of the text. -/
theorem isUp_segment {text : List Char} :
    isUp (segment text) = true ↔ visible text = ['.', '.'] := by
  constructor
  · intro h
    have hbytes := decode_of_isUp h
    rw [decode_segment] at hbytes
    exact Text.Utf8.encode_injective hbytes
  · intro h
    rw [segment, h]
    decide

theorem visible_of_isHere_segment {text : List Char} (h : isHere (segment text) = true) :
    visible text = ['.'] := by
  have hbytes := decode_of_isHere h
  rw [decode_segment] at hbytes
  exact Text.Utf8.encode_injective hbytes

/-! ### Appending segments -/

theorem finish_of_isUp {done : List Segment} {s : Segment} (h : isUp s = true) :
    finish done s = up done ++ [[]] := by
  rw [finish, if_pos h]

theorem finish_of_plain {done : List Segment} {s : Segment} (hup : isUp s = false)
    (hhere : isHere s = false) : finish done s = done ++ [s] := by
  simp [finish, hup, hhere]

/-- A text that is no dot segment as it stands is followed from where the path is. -/
theorem push_eq_finish {list : List Segment} {text : List Char} (hhere : text ≠ ['.'])
    (hup : text ≠ ['.', '.']) :
    push list text = finish (if list = [[]] then [] else list) (segment text) := by
  rw [push, if_neg (by simp [hhere, hup])]
  rfl

/-- A path without empty segments but the last goes on from its stem. -/
theorem dropEmptyLast_eq_stem {list : List Segment} (h : ∀ s ∈ list.dropLast, s ≠ []) :
    (if dropEmptyLast list = [[]] then [] else dropEmptyLast list) = stem list := by
  unfold dropEmptyLast stem
  by_cases hlast : list.getLast? = some []
  · obtain ⟨init, rfl⟩ := List.getLast?_eq_some_iff.mp hlast
    rw [List.dropLast_concat] at h
    cases init with
    | nil => simp
    | cons first rest =>
      have hmore : 1 < (first :: rest ++ [[]]).length ∧
          (first :: rest ++ [[]]).getLast? = some [] := ⟨by simp, hlast⟩
      rw [if_pos hmore, if_pos hlast, List.dropLast_concat, if_neg]
      intro heq
      exact h first List.mem_cons_self (List.cons.inj heq).1
  · have hkept : ¬(1 < list.length ∧ list.getLast? = some []) := fun hmore => hlast hmore.2
    rw [if_neg hkept, if_neg hlast, if_neg]
    rintro rfl
    exact hlast rfl

end Url.Path

namespace Topic

open Url.Path (visible stem)

/-- A part of the topic becomes two dots when its tabs and line ends vanish. -/
def HidesDots (t : Topic) : Prop :=
  ∃ part ∈ t.parts, visible part.toList = ['.', '.']

/-- The path is that of a service with one more segment for each part of the topic, none of them
empty. -/
def LiesBelow (t : Topic) (list : List Url.Segment) (path : Url.Path) : Prop :=
  ∃ more, path = .segments (stem list ++ more) ∧ more.length = t.parts.length ∧ ∀ s ∈ more, s ≠ []

variable {t u : Topic} {part : String}

theorem vanishes_of_isBlank_eq_false {c : Char} (h : Text.isBlank c = false) :
    Url.Path.vanishes c = false := by
  cases hv : Url.Path.vanishes c with
  | false => rfl
  | true =>
    have hmem : c = '\t' ∨ c = '\n' ∨ c = '\r' := by
      simpa [Url.Path.vanishes, or_assoc] using hv
    rcases hmem with rfl | rfl | rfl <;> exact absurd h (by decide)

namespace IsPart

/-- Something is visible of a part. -/
theorem visible_ne_nil (h : IsPart part) : visible part.toList ≠ [] := by
  cases hpart : part.toList with
  | nil => exact absurd (String.toList_inj.mp hpart) h.ne_empty
  | cons c rest =>
    have hshown := vanishes_of_isBlank_eq_false (h.head c (by rw [hpart]; rfl))
    simp [visible, hshown]

/-- A part of which a dot is visible is a dot, for nothing vanishes from its ends. -/
theorem visible_ne_here (h : IsPart part) : visible part.toList ≠ ['.'] := by
  intro hdot
  cases hpart : part.toList with
  | nil => exact h.ne_empty (String.toList_inj.mp hpart)
  | cons c rest =>
    have hshown := vanishes_of_isBlank_eq_false (h.head c (by rw [hpart]; rfl))
    rw [hpart, visible, List.filter_cons_of_pos (by simp [hshown])] at hdot
    obtain ⟨rfl, hrest⟩ := List.cons.inj hdot
    cases hlast : rest.getLast? with
    | none =>
      rw [List.getLast?_eq_none_iff.mp hlast] at hpart
      exact h.ne_here (String.toList_inj.mp hpart)
    | some d =>
      have hend := vanishes_of_isBlank_eq_false (h.last d (by
        rw [hpart, List.getLast?_cons, hlast]
        rfl))
      have hmem := List.filter_eq_nil_iff.mp hrest d (List.mem_of_getLast? hlast)
      simp [hend] at hmem

theorem push_eq_finish (h : IsPart part) (list : List Url.Segment) :
    Url.Path.push list part.toList =
      Url.Path.finish (if list = [[]] then [] else list) (Url.Path.segment part.toList) :=
  Url.Path.push_eq_finish (fun hdot => h.ne_here (String.toList_inj.mp hdot))
    (fun hdots => h.ne_up (String.toList_inj.mp hdots))

theorem isHere_segment (h : IsPart part) : Url.Path.isHere (Url.Path.segment part.toList) = false :=
  eq_false_of_ne_true fun hhere => h.visible_ne_here (Url.Path.visible_of_isHere_segment hhere)

/-- A part that hides no dots is one more segment. -/
theorem push_eq_append (h : IsPart part) (hplain : visible part.toList ≠ ['.', '.'])
    (list : List Url.Segment) : Url.Path.push list part.toList =
      (if list = [[]] then [] else list) ++ [Url.Path.segment part.toList] := by
  rw [h.push_eq_finish]
  refine Url.Path.finish_of_plain (eq_false_of_ne_true fun hup => hplain ?_) h.isHere_segment
  exact Url.Path.isUp_segment.mp hup

/-- A part that hides dots leads to the place above, which ends at a slash. -/
theorem push_of_hidden (h : IsPart part) (hdots : visible part.toList = ['.', '.'])
    (list : List Url.Segment) : Url.Path.push list part.toList =
      Url.Path.up (if list = [[]] then [] else list) ++ [[]] := by
  rw [h.push_eq_finish]
  exact Url.Path.finish_of_isUp (Url.Path.isUp_segment.mpr hdots)

end IsPart

/-! ### Addresses of topics -/

/-- The segments of a topic in the order in which they are appended. -/
theorem pushSegments_eq_foldl (t : Topic) (list : List Url.Segment) :
    t.pushSegments list =
      t.parts.foldl (fun l part => Url.Path.push l part.toList) (Url.Path.dropEmptyLast list) := by
  unfold pushSegments parts
  cases t.instanceId <;> rfl

theorem foldl_push {parts : List String}
    (hparts : ∀ part ∈ parts, IsPart part ∧ visible part.toList ≠ ['.', '.'])
    {list : List Url.Segment} (hlist : list ≠ [[]]) :
    parts.foldl (fun l part => Url.Path.push l part.toList) list =
      list ++ parts.map (Url.Path.segment ·.toList) := by
  induction parts generalizing list with
  | nil => simp
  | cons part rest ih =>
    obtain ⟨hpart, hplain⟩ := hparts part List.mem_cons_self
    have hsegment := Url.Path.segment_ne_nil hpart.visible_ne_nil
    have hnext : list ++ [Url.Path.segment part.toList] ≠ [] ++ [[]] := fun heq =>
      hsegment (List.cons.inj (List.append_inj' heq rfl).2).1
    rw [List.foldl_cons, hpart.push_eq_append hplain, if_neg hlist,
      ih (fun other hother => hparts other (List.mem_cons_of_mem _ hother)) hnext,
      List.map_cons, List.append_assoc, List.singleton_append]

variable {list : List Url.Segment}

/-- A topic that hides no dots adds one segment for each of its parts, wherever its service lies. -/
theorem pushSegments_eq_append (ht : t.Accepted) (hplain : ¬t.HidesDots)
    (list : List Url.Segment) :
    t.pushSegments list =
      (if Url.Path.dropEmptyLast list = [[]] then [] else Url.Path.dropEmptyLast list) ++
        t.parts.map (Url.Path.segment ·.toList) := by
  have hparts : ∀ part ∈ t.parts, IsPart part ∧ visible part.toList ≠ ['.', '.'] :=
    fun part hpart => ⟨ht.isPart part hpart, fun hdots => hplain ⟨part, hpart, hdots⟩⟩
  obtain ⟨hname, hnamed⟩ := hparts t.name List.mem_cons_self
  have hsegment := Url.Path.segment_ne_nil hname.visible_ne_nil
  rw [pushSegments_eq_foldl, parts, List.foldl_cons, hname.push_eq_append hnamed]
  generalize (if Url.Path.dropEmptyLast list = [[]] then [] else Url.Path.dropEmptyLast list) =
    front
  rw [foldl_push, List.map_cons, List.append_assoc, List.singleton_append]
  · exact fun part hpart => hparts part (List.mem_cons_of_mem _ hpart)
  · change front ++ [Url.Path.segment t.name.toList] ≠ [] ++ [[]]
    exact fun heq => hsegment (List.cons.inj (List.append_inj' heq rfl).2).1

/-- A topic that hides no dots lies below its service with one segment for each part. -/
theorem pushSegments_of_plain (ht : t.Accepted) (hlist : ∀ s ∈ list.dropLast, s ≠ [])
    (hplain : ¬t.HidesDots) :
    t.pushSegments list = stem list ++ t.parts.map (Url.Path.segment ·.toList) := by
  rw [pushSegments_eq_append ht hplain, Url.Path.dropEmptyLast_eq_stem hlist]

/-- The last of the segments below a service, and where the others lie. -/
theorem LiesBelow.of_append {init : List Url.Segment} {last : Url.Segment}
    (h : t.LiesBelow list (.segments (init ++ [last]))) :
    last ≠ [] ∧ ∃ more, init = stem list ++ more ∧ more.length + 1 = t.parts.length ∧
      ∀ s ∈ more, s ≠ [] := by
  obtain ⟨more, hpath, hlength, hne⟩ := h
  have hlist := Url.Path.segments.inj hpath
  rcases List.eq_nil_or_concat' more with rfl | ⟨front, final, rfl⟩
  · cases hlength
  · rw [← List.append_assoc] at hlist
    obtain ⟨rfl, hfinal⟩ := List.append_inj' hlist rfl
    obtain rfl := (List.cons.inj hfinal).1
    rw [List.length_append] at hlength
    exact ⟨hne last (by simp), front, rfl, hlength, fun s hs => hne s (by simp [hs])⟩

/-- A topic that hides dots does not lie below its service. -/
theorem not_liesBelow_of_hidesDots (ht : t.Accepted) (hdots : t.HidesDots) :
    ¬t.LiesBelow list (.segments (t.pushSegments list)) := by
  intro hbelow
  rw [pushSegments_eq_foldl] at hbelow
  have hname := ht.isPart t.name List.mem_cons_self
  cases hid : t.instanceId with
  | none =>
    have hparts : t.parts = [t.name] := by rw [parts, hid]; rfl
    obtain ⟨part, hpart, hup⟩ := hdots
    rw [hparts] at hpart hbelow
    obtain rfl := List.mem_singleton.mp hpart
    rw [List.foldl_cons, List.foldl_nil, hname.push_of_hidden hup] at hbelow
    exact hbelow.of_append.1 rfl
  | some id =>
    have hparts : t.parts = [t.name, id] := by rw [parts, hid]; rfl
    have hid' := ht.isPart id (by rw [hparts]; simp)
    rw [hparts, List.foldl_cons, List.foldl_cons, List.foldl_nil] at hbelow
    by_cases hup : visible id.toList = ['.', '.']
    · rw [hid'.push_of_hidden hup] at hbelow
      exact hbelow.of_append.1 rfl
    · have hnamed : visible t.name.toList = ['.', '.'] := by
        obtain ⟨part, hpart, hpartup⟩ := hdots
        rw [hparts] at hpart
        rcases List.mem_cons.mp hpart with rfl | hpart
        · exact hpartup
        · rw [List.mem_singleton.mp hpart] at hpartup
          exact absurd hpartup hup
      rw [hid'.push_eq_append hup, hname.push_of_hidden hnamed] at hbelow
      generalize Url.Path.up _ = above at hbelow
      obtain ⟨-, more, hmore, hlength, hne⟩ := hbelow.of_append
      -- The segment of the name is empty, or there is none.
      obtain ⟨s, rfl⟩ := List.length_eq_one_iff.mp
        (Nat.succ.inj (hlength.trans (congrArg List.length hparts)))
      by_cases habove : above ++ [[]] = [[]]
      · rw [if_pos habove] at hmore
        exact List.append_ne_nil_of_right_ne_nil _ (by simp) hmore.symm
      · rw [if_neg habove] at hmore
        obtain ⟨-, hs⟩ := List.append_inj' hmore rfl
        exact hne s (by simp) (List.cons.inj hs).1.symm

theorem map_segment_inj {parts others : List String} :
    parts.map (Url.Path.segment ·.toList) = others.map (Url.Path.segment ·.toList) ↔
      parts.map (visible ·.toList) = others.map (visible ·.toList) := by
  have hmap (list : List String) : list.map (Url.Path.segment ·.toList) =
      (list.map (visible ·.toList)).map (Text.Percent.encode Url.Path.keepInSegment) := by
    rw [List.map_map]
    rfl
  rw [hmap, hmap]
  exact (List.map_injective_iff.mpr
    (Text.Percent.encode_injective Url.Path.keepInSegment_percent)).eq_iff

/-- **Where topics lie.** Every accepted topic has an address below every websocket address. If no
segment of the path of the service is empty but the last, the path of the topic goes on from there
by one segment for each of its parts, none of them empty, if and only if no part hides dots. The
paths of two such topics are the same if and only if what is visible of their parts is. -/
theorem url_path_iff (ht : t.Accepted) (hu : u.Accepted) {base : Url}
    (hscheme : String.ofList base.scheme ∈ ["ws", "wss"]) (hpath : base.path = .segments list)
    (hlist : ∀ s ∈ list.dropLast, s ≠ []) :
    ∃ a b, t.url base = .ok a ∧ u.url base = .ok b ∧
      (t.LiesBelow list a.path ↔ ¬t.HidesDots) ∧
      (¬t.HidesDots → ¬u.HidesDots →
        (a.path = b.path ↔
          t.parts.map (visible ·.toList) = u.parts.map (visible ·.toList))) := by
  obtain ⟨a, ha, hapath⟩ := t.exists_url hscheme hpath
  obtain ⟨b, hb, hbpath⟩ := u.exists_url hscheme hpath
  refine ⟨a, b, ha, hb, ?_, fun htdots hudots => ?_⟩
  · rw [hapath]
    refine ⟨fun hbelow hdots => not_liesBelow_of_hidesDots ht hdots hbelow, fun hplain => ?_⟩
    refine ⟨_, congrArg _ (pushSegments_of_plain ht hlist hplain), List.length_map _, ?_⟩
    intro s hs
    obtain ⟨part, hpart, rfl⟩ := List.mem_map.mp hs
    exact Url.Path.segment_ne_nil (ht.isPart part hpart).visible_ne_nil
  · rw [hapath, hbpath, pushSegments_of_plain ht hlist htdots,
      pushSegments_of_plain hu hlist hudots, Url.Path.segments.injEq, List.append_right_inj]
    exact map_segment_inj

/-- A topic whose instance id hides dots does not lie below its service. -/
theorem url_path_of_hidden_dots :
    String.ofList slashed.scheme ∈ ["ws", "wss"] ∧
      slashed.path = .segments ["subscribe".toList, []] ∧
      (∀ s ∈ ["subscribe".toList, []].dropLast, s ≠ []) ∧
      ∃ t a, Topic.ofParts "m" (some ".\t.") = .ok t ∧ t.HidesDots ∧ t.url slashed = .ok a ∧
        ¬t.LiesBelow ["subscribe".toList, []] a.path := by
  have hscheme : String.ofList slashed.scheme ∈ ["ws", "wss"] := by decide
  have hlist : ∀ s ∈ ["subscribe".toList, []].dropLast, s ≠ [] := by decide
  have ht : Topic.ofParts "m" (some ".\t.") = .ok ⟨"m", some ".\t.", none, []⟩ := by rfl
  have hdots : HidesDots ⟨"m", some ".\t.", none, []⟩ := ⟨".\t.", by decide, by decide⟩
  obtain ⟨a, -, ha, -, hbelow, -⟩ :=
    url_path_iff (.ofParts ht) (.ofParts ht) hscheme rfl hlist
  exact ⟨hscheme, rfl, hlist, _, a, ht, hdots, ha, fun h => hbelow.mp h hdots⟩

/-- A name that hides dots leads out of the path of its service, and two names that differ in a tab
lead to the same place. -/
theorem url_leaves_service :
    ∃ t u v a b, Url.parse "ws://h/subscribe/" = .ok slashed ∧
      Topic.ofParts ".\t." none = .ok t ∧ Topic.ofParts "a\tb" none = .ok u ∧
      Topic.ofParts "ab" none = .ok v ∧ t.url slashed = .ok a ∧ a.path = .segments [[]] ∧
      (u.name, u.instanceId) ≠ (v.name, v.instanceId) ∧ u.url slashed = .ok b ∧
      v.url slashed = .ok b :=
  ⟨⟨".\t.", none, none, []⟩, ⟨"a\tb", none, none, []⟩, ⟨"ab", none, none, []⟩,
    { slashed with path := .segments [[]] },
    { slashed with path := .segments ["subscribe".toList, ['a', 'b']] },
    parse_slashed, by rfl, by rfl, by rfl, by rfl, rfl, by decide, by rfl, by rfl⟩

end Topic

end FeedRelay
