import Mathlib.Algebra.Group.Int.Defs
import Mathlib.Logic.Basic
import FeedRelay.Json.Parser
import FeedRelay.Proofs.Outcome

/-!
# What JSON texts stand for

A value is regular if its whole numbers fit into 64 bits, the keys of its objects are in strict
order and its arrays and objects are not nested too deeply (`Value.Regular`). Only regular values
are read from texts (`regular_of_parse`).
-/

namespace FeedRelay.Json

/-- A value with whole numbers of 64 bits, keys in strict order, and at most `depth` arrays and
objects inside one another. -/
inductive Value.Regular : (depth : Nat) → Value → Prop
  | null {depth : Nat} : Regular depth .null
  | bool {depth : Nat} (b : Bool) : Regular depth (.bool b)
  | integer {depth : Nat} {i : Int} (hlow : -2 ^ 63 ≤ i) (hhigh : i < 2 ^ 64) :
      Regular depth (.integer i)
  | real {depth : Nat} (x : Decimal.Binary64) : Regular depth (.real x)
  | string {depth : Nat} (s : String) : Regular depth (.string s)
  | array {depth : Nat} {items : List Value} (hitems : ∀ item ∈ items, Regular depth item) :
      Regular (depth + 1) (.array items)
  | object {depth : Nat} {members : Members} (horder : members.Pairwise (·.1 < ·.1))
      (hmembers : ∀ m ∈ members, Regular depth m.2) : Regular (depth + 1) (.object members)

/-- Whatever the reader gives for a text has the property. -/
def Gives {α : Type} (reader : Reader α) (p : α → Prop) : Prop :=
  ∀ ⦃text a rest⦄, reader text = .ok (a, rest) → p a

/-! ### Numbers -/

namespace Number

variable {depth : Nat}

theorem zero_lt : 0 < significandLimit := by decide

theorem gather_lt {s : Nat} (hs : s < significandLimit) (text : List Char) :
    (gather s text).1 < significandLimit := by
  fun_induction gather s text with
  | case1 s => exact hs
  | case2 s c rest hc t taken after hgather ih =>
    rw [hgather] at ih
    exact ih (of_decide_eq_true (Bool.and_eq_true_iff.mp hc).2)
  | case3 s c rest hc => exact hs

theorem assemble_gives (negative : Bool) (s : Nat) (exponent : Int) :
    Gives (assemble negative s exponent) (Value.Regular depth) := by
  intro text v rest h
  unfold assemble at h
  split at h
  · cases h
    exact .real _
  · cases h

theorem withExponent_gives (negative : Bool) (s : Nat) (exponent : Int) :
    Gives (withExponent negative s exponent) (Value.Regular depth) := by
  intro text v rest h
  unfold withExponent at h
  dsimp only at h
  split at h
  · cases h
  · split at h
    · cases h
    · split at h
      · exact assemble_gives _ _ _ h
      · rcases ite_eq_iff.mp h with ⟨-, h⟩ | ⟨-, h⟩
        · cases h
        · cases h
          exact .real _

theorem afterFraction_gives (negative : Bool) (s : Nat) (exponent : Int) :
    Gives (afterFraction negative s exponent) (Value.Regular depth) := by
  intro text v rest h
  unfold afterFraction at h
  split at h
  · exact withExponent_gives _ _ _ h
  · exact withExponent_gives _ _ _ h
  · exact assemble_gives _ _ _ h

theorem withFraction_gives (negative : Bool) (s : Nat) (exponent : Int) :
    Gives (withFraction negative s exponent) (Value.Regular depth) := by
  intro text v rest h
  unfold withFraction at h
  dsimp only at h
  split at h
  · exact afterFraction_gives _ _ _ h
  · split at h
    · cases h
    · exact afterFraction_gives _ _ _ h

/-- A number that goes on with neither a point nor an exponent is whole, and as it is then. -/
theorem afterDigits_gives (negative : Bool) {s : Nat} (hs : s < significandLimit) (dropped : Nat) :
    Gives (afterDigits negative s dropped) (Value.Regular depth) := by
  intro text v rest h
  have hbound : s < 2 ^ 64 := hs
  unfold afterDigits at h
  split at h
  · exact withFraction_gives _ _ _ h
  · exact withExponent_gives _ _ _ h
  · exact withExponent_gives _ _ _ h
  · split at h
    · exact assemble_gives _ _ _ h
    · split at h
      · cases h
        exact .integer (by omega) (by omega)
      · split at h
        · cases h
          exact .real _
        · rename_i hmagnitude
          have hlow : s ≤ 2 ^ 63 := Nat.not_lt.mp (not_or.mp hmagnitude).2
          cases h
          exact .integer (by omega) (by omega)

theorem read_gives (negative : Bool) : Gives (read negative) (Value.Regular depth) := by
  intro text v rest h
  unfold read at h
  split at h
  · cases h
  · split at h
    · cases h
    · exact afterDigits_gives _ zero_lt _ h
  · rename_i c after _
    split at h
    · have hs := gather_lt zero_lt (c :: after)
      generalize gather 0 (c :: after) = gathered at h hs
      exact afterDigits_gives _ hs _ h
    · cases h

end Number

/-! ### Objects -/

namespace Members

theorem mem_of_mem_insert {key : String} {value : Value} {members : Members}
    {m : String × Value} (h : m ∈ insert key value members) : m = (key, value) ∨ m ∈ members := by
  induction members with
  | nil => simpa [insert] using h
  | cons first rest ih =>
    obtain ⟨k, v⟩ := first
    simp only [insert] at h
    split at h
    · rcases List.mem_cons.mp h with h | h
      · exact Or.inl h
      · exact Or.inr (List.mem_cons_of_mem _ h)
    · split at h
      · exact List.mem_cons.mp h
      · rcases List.mem_cons.mp h with rfl | h
        · exact Or.inr List.mem_cons_self
        · exact (ih h).imp_right (List.mem_cons_of_mem _)

/-- Members stay in order when a key is given a value. -/
theorem pairwise_insert (key : String) (value : Value) {members : Members}
    (h : members.Pairwise (·.1 < ·.1)) : (insert key value members).Pairwise (·.1 < ·.1) := by
  induction members with
  | nil => exact List.pairwise_singleton _ _
  | cons first rest ih =>
    obtain ⟨k, v⟩ := first
    obtain ⟨hfirst, hrest⟩ := List.pairwise_cons.mp h
    simp only [insert]
    split
    · rename_i hkey
      subst hkey
      exact List.pairwise_cons.mpr ⟨hfirst, hrest⟩
    · rename_i hkey
      split
      · rename_i hbefore
        refine List.pairwise_cons.mpr ⟨fun m hm => ?_, h⟩
        rcases List.mem_cons.mp hm with rfl | hm
        · exact hbefore
        · exact String.lt_trans hbefore (hfirst m hm)
      · rename_i hafter
        refine List.pairwise_cons.mpr ⟨fun m hm => ?_, ih hrest⟩
        rcases mem_of_mem_insert hm with rfl | hm
        · exact String.not_le.mp fun hle =>
            hkey (String.le_antisymm hle (String.not_lt.mp hafter))
        · exact hfirst m hm

private theorem foldl_insert (found sorted : Members) (h : sorted.Pairwise (·.1 < ·.1)) :
    (found.foldl (fun sorted (k, v) => insert k v sorted) sorted).Pairwise (·.1 < ·.1) ∧
      ∀ m ∈ found.foldl (fun sorted (k, v) => insert k v sorted) sorted,
        m ∈ sorted ∨ m ∈ found := by
  induction found generalizing sorted with
  | nil => exact ⟨h, fun m hm => Or.inl hm⟩
  | cons first rest ih =>
    obtain ⟨k, v⟩ := first
    obtain ⟨horder, hmem⟩ := ih (insert k v sorted) (pairwise_insert k v h)
    refine ⟨horder, fun m hm => ?_⟩
    rcases hmem m hm with hm | hm
    · rcases mem_of_mem_insert hm with rfl | hm
      · exact Or.inr List.mem_cons_self
      · exact Or.inl hm
    · exact Or.inr (List.mem_cons_of_mem _ hm)

/-- Keys that are given values one after another end up in order. -/
theorem pairwise_ofList (found : List (String × Value)) :
    (ofList found).Pairwise (·.1 < ·.1) :=
  (foldl_insert found [] List.Pairwise.nil).1

theorem mem_of_mem_ofList {found : List (String × Value)} {m : String × Value}
    (h : m ∈ ofList found) : m ∈ found :=
  ((foldl_insert found [] List.Pairwise.nil).2 m h).resolve_left (List.not_mem_nil)

theorem insert_last {key : String} {value : Value} {members : Members}
    (h : ∀ m ∈ members, m.1 < key) : insert key value members = members ++ [(key, value)] := by
  induction members with
  | nil => rfl
  | cons first rest ih =>
    obtain ⟨k, v⟩ := first
    obtain ⟨hfirst, hrest⟩ := List.forall_mem_cons.mp h
    have hne : key ≠ k := fun heq => String.lt_irrefl k (heq ▸ hfirst)
    rw [insert, if_neg hne, if_neg (String.lt_asymm hfirst), ih hrest, List.cons_append]

/-- Members in strict order are given their places as they come. -/
theorem ofList_of_pairwise {members : Members} (h : members.Pairwise (·.1 < ·.1)) :
    ofList members = members := by
  have hfold : ∀ more sorted : Members, (sorted ++ more).Pairwise (·.1 < ·.1) →
      more.foldl (fun sorted (k, v) => insert k v sorted) sorted = sorted ++ more := by
    intro more
    induction more with
    | nil => exact fun sorted _ => (List.append_nil sorted).symm
    | cons first rest ih =>
      intro sorted horder
      obtain ⟨k, v⟩ := first
      have hlast : ∀ m ∈ sorted, m.1 < k := fun m hm =>
        (List.pairwise_append.mp horder).2.2 m hm (k, v) List.mem_cons_self
      rw [List.foldl_cons]
      dsimp only
      rw [insert_last hlast, ih _ (by simpa using horder), List.append_assoc,
        List.singleton_append]
  exact hfold members [] h

end Members

/-! ### Readers -/

theorem word_gives (value : Value) (letters : List Char) :
    Gives (word value letters) (· = value) := by
  intro text v rest h
  induction letters generalizing text with
  | nil => exact (Prod.mk.inj (Except.ok.inj h)).1.symm
  | cons expected more ih =>
    cases text with
    | nil => cases h
    | cons c after =>
      rcases ite_eq_iff.mp h with ⟨-, h⟩ | ⟨-, h⟩
      · exact ih h
      · cases h

variable {item : Reader Value} {p : Value → Prop} {depth : Nat}

theorem moreItems_gives (hitem : Gives item p) (fuel : Nat) :
    Gives (moreItems item fuel) (∀ v ∈ ·, p v) := by
  induction fuel with
  | zero =>
    intro text values rest h
    cases h
  | succ fuel ih =>
    intro text values rest h
    unfold moreItems at h
    split at h
    · cases h
    · cases h
      simp
    · split at h
      · cases h
      · cases h
      · obtain ⟨⟨first, after⟩, hfirst, h⟩ := exists_of_bind_eq_ok h
        obtain ⟨⟨others, final⟩, hothers, h⟩ := exists_of_bind_eq_ok h
        cases h
        exact List.forall_mem_cons.mpr ⟨hitem hfirst, ih hothers⟩
    · cases h

theorem items_gives (hitem : Gives item p) : Gives (items item) (∀ v ∈ ·, p v) := by
  intro text values rest h
  unfold items at h
  split at h
  · cases h
  · cases h
    simp
  · obtain ⟨⟨first, after⟩, hfirst, h⟩ := exists_of_bind_eq_ok h
    obtain ⟨⟨others, final⟩, hothers, h⟩ := exists_of_bind_eq_ok h
    cases h
    exact List.forall_mem_cons.mpr ⟨hitem hfirst, moreItems_gives hitem _ hothers⟩

theorem member_gives (hitem : Gives item p) : Gives (member item) (p ·.2) := by
  intro text m rest h
  unfold member at h
  obtain ⟨⟨key, after⟩, -, h⟩ := exists_of_bind_eq_ok h
  dsimp only at h
  split at h
  · cases h
  · obtain ⟨⟨value, final⟩, hvalue, h⟩ := exists_of_bind_eq_ok h
    cases h
    exact hitem hvalue
  · cases h

theorem moreMembers_gives (hitem : Gives item p) (fuel : Nat) :
    Gives (moreMembers item fuel) (∀ m ∈ ·, p m.2) := by
  induction fuel with
  | zero =>
    intro text found rest h
    cases h
  | succ fuel ih =>
    intro text found rest h
    unfold moreMembers at h
    split at h
    · cases h
    · cases h
      simp
    · split at h
      · cases h
      · cases h
      · obtain ⟨⟨first, after⟩, hfirst, h⟩ := exists_of_bind_eq_ok h
        obtain ⟨⟨others, final⟩, hothers, h⟩ := exists_of_bind_eq_ok h
        cases h
        exact List.forall_mem_cons.mpr ⟨member_gives hitem hfirst, ih hothers⟩
      · cases h
    · cases h

theorem members_gives (hitem : Gives item p) : Gives (members item) (∀ m ∈ ·, p m.2) := by
  intro text found rest h
  unfold members at h
  split at h
  · cases h
  · cases h
    simp
  · obtain ⟨⟨first, after⟩, hfirst, h⟩ := exists_of_bind_eq_ok h
    obtain ⟨⟨others, final⟩, hothers, h⟩ := exists_of_bind_eq_ok h
    cases h
    exact List.forall_mem_cons.mpr ⟨member_gives hitem hfirst, moreMembers_gives hitem _ hothers⟩
  · cases h

theorem scalar_gives : Gives scalar (Value.Regular depth) := by
  intro text v rest h
  unfold scalar at h
  split at h
  · cases h
  · rw [word_gives _ _ h]
    exact .null
  · rw [word_gives _ _ h]
    exact .bool _
  · rw [word_gives _ _ h]
    exact .bool _
  · exact Number.read_gives _ h
  · obtain ⟨⟨s, after⟩, -, h⟩ := exists_of_map_eq_ok h
    cases h
    exact .string _
  · split at h
    · exact Number.read_gives _ h
    · cases h

/-- A value that is read is regular. -/
theorem value_gives (depth : Nat) : Gives (value depth) (Value.Regular depth) := by
  induction depth with
  | zero =>
    intro text v rest h
    unfold value at h
    split at h
    · cases h
    · cases h
    · exact scalar_gives h
  | succ depth ih =>
    intro text v rest h
    unfold value at h
    split at h
    · obtain ⟨⟨values, after⟩, hvalues, h⟩ := exists_of_map_eq_ok h
      cases h
      exact .array (items_gives ih hvalues)
    · obtain ⟨⟨found, after⟩, hfound, h⟩ := exists_of_map_eq_ok h
      cases h
      refine .object (Members.pairwise_ofList found) fun m hm => ?_
      exact members_gives ih hfound m (Members.mem_of_mem_ofList hm)
    · exact scalar_gives h

/-- The value of a text is regular. -/
theorem regular_of_parse {text : String} {v : Value} (h : parse text = .ok v) :
    v.Regular depthLimit := by
  obtain ⟨⟨result, rest⟩, hresult, h⟩ := exists_of_bind_eq_ok h
  dsimp only at h
  split at h
  · cases h
    exact value_gives depthLimit hresult
  · cases h

end FeedRelay.Json
