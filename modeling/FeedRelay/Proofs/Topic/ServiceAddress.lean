import FeedRelay.Proofs.Outcome
import FeedRelay.Topic.Location
import FeedRelay.Url.Reader

/-!
# Addresses below that of a service

A websocket address that was read has a path with segments, so every topic has an address below it
(`Url.exists_segments_of_parse`, `Topic.exists_url`). Whether a topic has one does not depend on the
topic (`Topic.exists_url_of_url`).
-/

namespace FeedRelay

/-! ### Paths of services -/

/-- Behind the authority of a special address there is a path with segments. -/
theorem Url.exists_segments_of_readWithAuthority {scheme text : List Char} {ends : Bool}
    {authority : Option Authority} {path : Path} (hspecial : isSpecial scheme = true)
    (h : readWithAuthority scheme text ends = .ok (authority, path)) :
    ∃ list, path = .segments list := by
  obtain ⟨⟨read, rest⟩, -, h⟩ := exists_of_bind_eq_ok h
  obtain ⟨-, rfl⟩ := Prod.mk.inj (Except.ok.inj h)
  rw [readPath, if_neg (by simp [hspecial])]
  exact ⟨_, rfl⟩

/-- The path of a websocket address has segments. -/
theorem Url.exists_segments_of_parse {text : String} {base : Url} (h : parse text = .ok base)
    (hscheme : String.ofList base.scheme ∈ ["ws", "wss"]) :
    ∃ list, base.path = .segments list := by
  unfold parse readChars at h
  split at h
  · cases h
  · rename_i scheme rest hsplit
    obtain ⟨⟨authority, path⟩, hbody, h⟩ := exists_of_bind_eq_ok h
    obtain rfl := Except.ok.inj h
    have hname : String.ofList scheme ∈ ["ws", "wss"] := hscheme
    have hspecial : isSpecial scheme = true := by
      rw [isSpecial, decide_eq_true_eq]
      exact List.Sublist.subset (by decide : ["ws", "wss"].Sublist _) hname
    have hfile : scheme ≠ "file".toList := by
      rintro rfl
      exact absurd hname (by decide)
    unfold readBody at hbody
    rw [if_neg hfile, if_pos hspecial] at hbody
    exact exists_segments_of_readWithAuthority hspecial hbody

namespace Topic

/-! ### Addresses of topics -/

theorem exists_url (t : Topic) {base : Url} {list : List Url.Segment}
    (hscheme : String.ofList base.scheme ∈ ["ws", "wss"]) (hpath : base.path = .segments list) :
    ∃ a, t.url base = .ok a ∧ a.path = .segments (t.pushSegments list) := by
  refine ⟨{ base with
    path := .segments (t.pushSegments list)
    query := t.addressQuery
    fragment := none }, ?_, rfl⟩
  rw [Topic.url, if_pos hscheme, hpath]

/-- Whether a topic has an address does not depend on the topic. -/
theorem exists_url_of_url {topic other : Topic} {base url : Url} (h : topic.url base = .ok url) :
    ∃ url, other.url base = .ok url := by
  unfold Topic.url at h
  split at h
  · rename_i hscheme
    cases hpath : base.path with
    | segments list =>
      obtain ⟨a, ha, -⟩ := other.exists_url hscheme hpath
      exact ⟨a, ha⟩
    | bare _ =>
      rw [hpath] at h
      cases h
  · cases h

/-- The address of a service whose path ends at a slash. -/
def slashed : Url where
  scheme := "ws".toList
  authority := some ⟨[], none, .domain ['h'], none⟩
  path := .segments ["subscribe".toList, []]
  query := none
  fragment := none

theorem parse_slashed : Url.parse "ws://h/subscribe/" = .ok slashed :=
  eq_ok_of_toOption (by decide +kernel)

/-- The address of a topic `a` without an instance id below it. -/
def belowSlashed : Url :=
  { slashed with path := .segments ["subscribe".toList, ['a']] }

example : (⟨"a", none, none, []⟩ : Topic).url slashed = .ok belowSlashed := by rfl

end Topic

end FeedRelay
