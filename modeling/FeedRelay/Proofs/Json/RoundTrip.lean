import FeedRelay.Proofs.Json.Scalars

/-!
# Reading written values

The compact text of a regular value is read as the value again, with whatever follows the text left
over, if all numbers in the value are whole (`readsBack_value`). So a whole text that was written is
read as what was written (`parse_toText`).
-/

namespace FeedRelay.Json

/-- A binary64 number occurs in the value. -/
inductive Value.HoldsReal : Value → Prop
  | real (x : Decimal.Binary64) : HoldsReal (.real x)
  | item {items : List Value} {v : Value} (hmem : v ∈ items) (h : HoldsReal v) :
      HoldsReal (.array items)
  | member {members : Members} {m : String × Value} (hmem : m ∈ members) (h : HoldsReal m.2) :
      HoldsReal (.object members)

/-- The reader reads the value from its compact text and leaves what follows the text. -/
structure ReadsBack (item : Reader Value) (v : Value) : Prop where
  opens : Opens v.render
  read : ∀ {rest}, Closed rest → item (v.render ++ rest) = .ok (v, rest)

variable {item : Reader Value} {rest : List Char}

/-! ### Arrays -/

theorem closed_more (texts : List (List Char)) {close : Char}
    (hclose : close = ']' ∨ close = '\x7d') (rest : List Char) :
    Closed (texts.flatMap (',' :: ·) ++ close :: rest) := by
  intro c hc
  cases texts with
  | nil =>
    obtain rfl := Option.some.inj hc
    exact Or.inr hclose
  | cons text texts =>
    obtain rfl := Option.some.inj hc
    exact Or.inl rfl

theorem length_le_flatMap (texts : List (List Char)) (rest : List Char) :
    texts.length ≤ (texts.flatMap (',' :: ·) ++ rest).length := by
  induction texts with
  | nil => exact Nat.zero_le _
  | cons text texts ih =>
    simp only [List.flatMap_cons, List.cons_append, List.append_assoc, List.length_cons,
      List.length_append] at ih ⊢
    omega

theorem renderItems_cons (first : Value) (others : List Value) :
    renderItems (first :: others) =
      first.render ++ (others.map Value.render).flatMap (',' :: ·) := by
  induction others generalizing first with
  | nil => simp [renderItems]
  | cons second others ih => simp [renderItems, ih second]

/-- Behind a comma there is another item. -/
theorem moreItems_comma {text : List Char} (htext : Opens text) (fuel : Nat) :
    moreItems item (fuel + 1) (',' :: text) = (do
      let (value, rest) ← item text
      let (values, rest) ← moreItems item fuel rest
      return (value :: values, rest)) := by
  obtain ⟨c, tail, rfl, hblank, hclose⟩ := htext
  rw [moreItems, skipBlanks_cons (by decide)]
  -- What comes first is a comma, and behind it something else than the end of the array.
  split
  · rename_i heq
    cases heq
  · rename_i heq
    cases heq
  · rename_i heq
    cases heq
    rw [skipBlanks_cons hblank]
    split
    · rename_i heq
      cases heq
    · rename_i heq
      exact absurd (List.cons.inj heq).1 hclose
    · rfl
  · rename_i hcomma
    exact absurd rfl (hcomma _)

/-- An array that does not end at once has a first item. -/
theorem items_of_opens {text : List Char} (htext : Opens text) :
    items item text = (do
      let (value, rest) ← item text
      let (values, rest) ← moreItems item (rest.length + 1) rest
      return (value :: values, rest)) := by
  obtain ⟨c, tail, rfl, hblank, hclose⟩ := htext
  rw [items, skipBlanks_cons hblank]
  split
  · rename_i heq
    cases heq
  · rename_i heq
    exact absurd (List.cons.inj heq).1 hclose
  · rfl

theorem Opens.append {text : List Char} (h : Opens text) (rest : List Char) :
    Opens (text ++ rest) := by
  obtain ⟨c, tail, rfl, hc⟩ := h
  exact ⟨c, tail ++ rest, rfl, hc⟩

/-- The items behind the first are read back in their order. -/
theorem moreItems_render {values : List Value} (hitem : ∀ v ∈ values, ReadsBack item v)
    {fuel : Nat} (hfuel : values.length < fuel) (rest : List Char) :
    moreItems item fuel ((values.map Value.render).flatMap (',' :: ·) ++ ']' :: rest) =
      .ok (values, rest) := by
  induction values generalizing fuel with
  | nil =>
    obtain ⟨fuel, rfl⟩ := Nat.exists_eq_succ_of_ne_zero (Nat.ne_zero_of_lt hfuel)
    rfl
  | cons first others ih =>
    obtain ⟨fuel, rfl⟩ := Nat.exists_eq_succ_of_ne_zero (Nat.ne_zero_of_lt hfuel)
    obtain ⟨hfirst, hothers⟩ := List.forall_mem_cons.mp hitem
    have hread := hfirst.read (closed_more (others.map Value.render) (Or.inl rfl) rest)
    have hmore := ih hothers (Nat.lt_of_succ_lt_succ hfuel)
    rw [List.map_cons, List.flatMap_cons, List.append_assoc, List.cons_append,
      moreItems_comma (hfirst.opens.append _), hread]
    change (moreItems item fuel _ >>= _) = _
    rw [hmore]
    rfl

/-- The items of an array are read back in their order. -/
theorem items_render {values : List Value} (hitem : ∀ v ∈ values, ReadsBack item v)
    (rest : List Char) : items item (renderItems values ++ ']' :: rest) = .ok (values, rest) := by
  cases values with
  | nil => rfl
  | cons first others =>
    obtain ⟨hfirst, hothers⟩ := List.forall_mem_cons.mp hitem
    have hread := hfirst.read (closed_more (others.map Value.render) (Or.inl rfl) rest)
    have hfuel := length_le_flatMap (others.map Value.render) (']' :: rest)
    rw [List.length_map] at hfuel
    have hmore := moreItems_render hothers (Nat.lt_succ_of_le hfuel) rest
    rw [renderItems_cons, List.append_assoc, items_of_opens (hfirst.opens.append _), hread]
    change (moreItems item _ _ >>= _) = _
    rw [hmore]
    rfl

/-! ### Objects -/

/-- The text of a member behind the opening quote of its key. -/
def memberTail (m : String × Value) : List Char :=
  m.1.toList.flatMap escapeChar ++ '"' :: ':' :: m.2.render

theorem renderMembers_cons (first : String × Value) (others : Members) :
    renderMembers (first :: others) =
      '"' :: memberTail first ++ (others.map ('"' :: memberTail ·)).flatMap (',' :: ·) := by
  induction others generalizing first with
  | nil => simp [renderMembers, memberTail, renderString]
  | cons second others ih => simp [renderMembers, memberTail, renderString, ih second]

/-- A member is read back if its value is. -/
theorem member_render {m : String × Value} (hitem : ReadsBack item m.2) (hrest : Closed rest) :
    member item (memberTail m ++ rest) = .ok (m, rest) := by
  have hkey := string_render m.1 (':' :: (m.2.render ++ rest))
  rw [member, memberTail, List.append_assoc, List.cons_append, List.cons_append, hkey]
  change (item (m.2.render ++ rest) >>= _) = _
  rw [hitem.read hrest]
  rfl

/-- The members behind the first are read back in their order. -/
theorem moreMembers_render {found : Members} (hitem : ∀ m ∈ found, ReadsBack item m.2)
    {fuel : Nat} (hfuel : found.length < fuel) (rest : List Char) :
    moreMembers item fuel
        ((found.map ('"' :: memberTail ·)).flatMap (',' :: ·) ++ '\x7d' :: rest) =
      .ok (found, rest) := by
  induction found generalizing fuel with
  | nil =>
    obtain ⟨fuel, rfl⟩ := Nat.exists_eq_succ_of_ne_zero (Nat.ne_zero_of_lt hfuel)
    rfl
  | cons first others ih =>
    obtain ⟨fuel, rfl⟩ := Nat.exists_eq_succ_of_ne_zero (Nat.ne_zero_of_lt hfuel)
    obtain ⟨hfirst, hothers⟩ := List.forall_mem_cons.mp hitem
    have hread := member_render hfirst
      (closed_more (others.map ('"' :: memberTail ·)) (Or.inr rfl) rest)
    have hmore := ih hothers (Nat.lt_of_succ_lt_succ hfuel)
    rw [List.map_cons, List.flatMap_cons, List.append_assoc]
    change (member item (memberTail first ++ _) >>= _) = _
    rw [hread]
    change (moreMembers item fuel _ >>= _) = _
    rw [hmore]
    rfl

/-- The members of an object are read back in their order. -/
theorem members_render {found : Members} (hitem : ∀ m ∈ found, ReadsBack item m.2)
    (rest : List Char) :
    members item (renderMembers found ++ '\x7d' :: rest) = .ok (found, rest) := by
  cases found with
  | nil => rfl
  | cons first others =>
    obtain ⟨hfirst, hothers⟩ := List.forall_mem_cons.mp hitem
    have hread := member_render hfirst
      (closed_more (others.map ('"' :: memberTail ·)) (Or.inr rfl) rest)
    have hfuel := length_le_flatMap (others.map ('"' :: memberTail ·)) ('\x7d' :: rest)
    rw [List.length_map] at hfuel
    have hmore := moreMembers_render hothers (Nat.lt_succ_of_le hfuel) rest
    rw [renderMembers_cons, List.append_assoc]
    change (member item (memberTail first ++ _) >>= _) = _
    rw [hread]
    change (moreMembers item _ _ >>= _) = _
    rw [hmore]
    rfl

/-! ### Whole texts -/

/-- A regular value without binary64 numbers is read back. -/
theorem readsBack_value {depth : Nat} {v : Value} (h : v.Regular depth) (hexact : ¬v.HoldsReal) :
    ReadsBack (value depth) v := by
  induction h with
  | @null depth =>
    refine ⟨⟨_, _, rfl, by decide, by decide⟩, fun {rest} _ => ?_⟩
    exact value_eq_scalar depth rfl (by decide) (by decide) _
  | @bool depth b =>
    cases b with
    | false =>
      refine ⟨⟨_, _, rfl, by decide, by decide⟩, fun {rest} _ => ?_⟩
      exact value_eq_scalar depth rfl (by decide) (by decide) _
    | true =>
      refine ⟨⟨_, _, rfl, by decide, by decide⟩, fun {rest} _ => ?_⟩
      exact value_eq_scalar depth rfl (by decide) (by decide) _
  | @integer depth i hlow hhigh =>
    exact ⟨opens_renderInteger i, value_renderInteger depth hlow hhigh⟩
  | real x => exact absurd (.real x) hexact
  | @string depth s =>
    refine ⟨⟨'"', _, rfl, by decide, by decide⟩, fun {rest} _ => ?_⟩
    have htext : (Value.string s).render ++ rest =
        '"' :: (s.toList.flatMap escapeChar ++ '"' :: rest) := by simp [Value.render, renderString]
    rw [htext, value_eq_scalar depth rfl (by decide) (by decide)]
    change (string _).map _ = _
    rw [string_render]
    rfl
  | @array depth items hitems ih =>
    have hitem : ∀ v ∈ items, ReadsBack (value depth) v := fun v hv =>
      ih v hv fun hreal => hexact (.item hv hreal)
    refine ⟨⟨'[', _, by rw [Value.render]; rfl, by decide, by decide⟩, fun {rest} _ => ?_⟩
    have htext : (Value.array items).render ++ rest =
        '[' :: (renderItems items ++ ']' :: rest) := by simp [Value.render]
    rw [htext]
    change (Json.items (value depth) _).map _ = _
    rw [items_render hitem]
    rfl
  | @object depth members horder hmembers ih =>
    have hitem : ∀ m ∈ members, ReadsBack (value depth) m.2 := fun m hm =>
      ih m hm fun hreal => hexact (.member hm hreal)
    refine ⟨⟨'\x7b', _, by rw [Value.render]; rfl, by decide, by decide⟩, fun {rest} _ => ?_⟩
    have htext : (Value.object members).render ++ rest =
        '\x7b' :: (renderMembers members ++ '\x7d' :: rest) := by simp [Value.render]
    rw [htext]
    change (Json.members (value depth) _).map _ = _
    rw [members_render hitem]
    exact congrArg (fun found => Except.ok (Value.object found, rest))
      (Members.ofList_of_pairwise horder)

/-- The compact text of a regular value without binary64 numbers is a text of that value. -/
theorem parse_toText {v : Value} (h : v.Regular depthLimit) (hexact : ¬v.HoldsReal) :
    parse v.toText = .ok v := by
  have hclosed : Closed [] := fun c hc => nomatch hc
  have hread := (readsBack_value h hexact).read hclosed
  rw [List.append_nil] at hread
  rw [parse, Value.toText, String.toList_ofList, parseChars, hread]
  rfl

end FeedRelay.Json
