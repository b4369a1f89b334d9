import FeedRelay.Settings.Layers

/-!
# Places in trees of settings

Settings are kept two levels below the root of a tree: in a section, under a name. A place without a
node and one with a node that is no value at all are alike (`Node.valueAt?`). A node that is put at
one place leaves all other places as they are, and the section it is put in is a table afterwards.

The tree of a file is laid out from the nodes of the file one after the other. If no key is given
twice, and no key at the root is a path to some place further down (`Layer.IsPlain`), then there is
at each place of the tree what the file has there (`Node.valueAt?_onto`).

## Main definitions

* `Node.child?`, `Node.valueAt?`: what is below a node, and what is given at a place of a tree.
* `Node.IsSectioned`: the sections of a tree are tables.
* `Node.placed`: a tree with a node put at a place.

## Main results

* `Node.valueAt?_placed`, `Node.IsSectioned.placed`: what a node put at a place does to a tree.
* `Node.valueAt?_onto`: the places of the tree of a file.
-/

namespace FeedRelay.Settings

namespace Members

variable {m rest : Members} {key other : String} {node : Node}

theorem find?_cons (pair : String × Node) (rest : Members) (key : String) :
    Members.find? (pair :: rest) key =
      if pair.1 = key then some pair.2 else Members.find? rest key := by
  by_cases h : pair.1 = key <;> simp [Members.find?, h]

theorem find?_append (m rest : Members) (key : String) :
    Members.find? (m ++ rest) key = (Members.find? m key).or (Members.find? rest key) := by
  simp [Members.find?, List.find?_append, Option.map_or]

theorem mem_of_find? (h : Members.find? m key = some node) : (key, node) ∈ m := by
  obtain ⟨⟨k, _⟩, hpair, rfl⟩ := Option.map_eq_some_iff.mp h
  have hkey : k = key := by simpa using List.find?_some hpair
  exact hkey ▸ List.mem_of_find?_eq_some hpair

theorem find?_eq_none (h : key ∉ m.map Prod.fst) : Members.find? m key = none := by
  rw [Members.find?, Option.map_eq_none_iff, List.find?_eq_none]
  rintro pair hpair hkey
  exact h (List.mem_map.mpr ⟨pair, hpair, of_decide_eq_true hkey⟩)

/-- The node of a key is replaced if the key has one. -/
private theorem find?_replace (m : Members) (key : String) (node : Node) (other : String) :
    Members.find? (m.map fun (k, old) => if k = key then (k, node) else (k, old)) other =
      if other = key then (Members.find? m key).map fun _ => node else Members.find? m other := by
  induction m with
  | nil => simp [Members.find?]
  | cons pair rest ih =>
    obtain ⟨k, old⟩ := pair
    rw [List.map_cons, find?_cons, ih, find?_cons, find?_cons]
    by_cases hk : k = key
    · subst hk
      by_cases hother : k = other
      · simp [hother]
      · simp [hother, Ne.symm hother]
    · by_cases hother : k = other
      · subst hother
        simp [hk]
      · simp [hk, hother]

/-- A key that is put has its node, and the others have theirs. -/
theorem find?_put (m : Members) (key : String) (node : Node) (other : String) :
    Members.find? (Members.put m key node) other =
      if other = key then some node else Members.find? m other := by
  unfold Members.put
  split
  case isTrue hsome =>
    obtain ⟨old, hold⟩ := Option.isSome_iff_exists.mp hsome
    rw [find?_replace, hold]
    rfl
  case isFalse hnone =>
    rw [find?_append, find?_cons]
    by_cases hother : other = key
    · subst hother
      rw [Option.not_isSome_iff_eq_none.mp hnone]
      simp
    · simp [Ne.symm hother, hother, Members.find?]

end Members

namespace Node

variable {node part tree value : Node} {key other sectionName name : String}
  {m : Members}

/-- The members of a node; only a table has any. -/
def members : Node → Members
  | .table _ members => members
  | _ => []

/-- Whether a node is a table. -/
def isTable : Node → Bool
  | .table _ _ => true
  | _ => false

/-- The node of a key below a node. -/
def child? (node : Node) (key : String) : Option Node :=
  Members.find? node.members key

/-- The node at a place of a tree, if there is one and it is a value. -/
def valueAt? (tree : Node) (sectionName name : String) : Option Node :=
  ((tree.child? sectionName).bind (·.child? name)).filter (!·.isNil)

@[simp] theorem child?_nil (key : String) : nil.child? key = none := rfl

/-- A node is changed below a key; below the other keys there is what there was. -/
theorem child?_atKey (key : String) (change : Node → Node) (node : Node) (other : String) :
    (node.atKey key change).child? other =
      if other = key then some (change ((node.child? key).getD .nil)) else node.child? other := by
  cases node with
  | table origin members => exact Members.find?_put members key _ other
  | leaf | list => exact Members.find?_put [] key _ other

theorem isTable_atKey (key : String) (change : Node → Node) (node : Node) :
    (node.atKey key change).isTable = true := by
  cases node <;> rfl

theorem isNil_of_isTable (h : node.isTable = true) : node.isNil = false := by
  cases node with
  | table => rfl
  | leaf | list => cases h

/-! ### Putting a node at a place -/

/-- A tree with a node put at a place. -/
def placed (tree : Node) (sectionName name : String) (value : Node) : Node :=
  tree.atKey sectionName fun part => part.atKey name fun _ => value

/-- A plain value that is assigned to a key with a dot is put at a place. -/
theorem assign_eq_placed {origin : Option String} {scalar : Scalar}
    (h : Path.parse? key = some [.key sectionName, .key name]) (tree : Node) :
    tree.assign key (.leaf origin scalar) = tree.placed sectionName name (.leaf origin scalar) := by
  rw [assign, h]
  rfl

/-- A value that is put at a place is there, and the other places have their values. -/
theorem valueAt?_placed (hvalue : value.isNil = false) (tree : Node)
    (sectionName name otherSection otherName : String) :
    (tree.placed sectionName name value).valueAt? otherSection otherName =
      if otherSection = sectionName ∧ otherName = name then some value
      else tree.valueAt? otherSection otherName := by
  rw [valueAt?, placed, child?_atKey]
  by_cases hsection : otherSection = sectionName
  · subst hsection
    rw [if_pos rfl, Option.bind_some, child?_atKey]
    by_cases hname : otherName = name
    · simp [hname, Option.filter, hvalue]
    · simp only [hname, and_false, if_false]
      cases hpart : tree.child? otherSection <;> simp [valueAt?, hpart]
  · simp [hsection, valueAt?]

/-! ### Sections -/

/-- The names of the sections. -/
def sectionNames : List String :=
  ["server", "upstream", "relay", "reconnect", "logging"]

/-- A tree of sections: it is a table, and so is each section, unless there is none. -/
structure IsSectioned (tree : Node) : Prop where
  isTable : tree.isTable = true
  sections : ∀ name ∈ sectionNames, ∀ part, tree.child? name = some part →
    part.isNil = true ∨ part.isTable = true

instance (tree : Node) : Decidable tree.IsSectioned :=
  decidable_of_iff (tree.isTable = true ∧ ∀ name ∈ sectionNames,
      (tree.child? name).all (fun part => part.isNil || part.isTable) = true)
    ⟨fun ⟨htable, hsections⟩ => ⟨htable, by simpa [Option.all_eq_true] using hsections⟩,
      fun h => ⟨h.isTable, by simpa [Option.all_eq_true] using h.sections⟩⟩

theorem IsSectioned.placed (h : tree.IsSectioned) (sectionName name : String) (value : Node) :
    (tree.placed sectionName name value).IsSectioned where
  isTable := isTable_atKey _ _ _
  sections other hother part hpart := by
    rw [Node.placed, child?_atKey] at hpart
    split at hpart
    · obtain rfl := Option.some.inj hpart
      exact .inr (isTable_atKey _ _ _)
    · exact h.sections other hother part hpart

/-! ### Laying out a file -/

/-- Below a table that is laid over a node there are the nodes of the table, each laid over the one
that was there. -/
theorem child?_overlayMembers (hnodup : (m.map Prod.fst).Nodup) (node : Node) (key : String) :
    (overlayMembers node m).child? key =
      ((Members.find? m key).map (overlay ((node.child? key).getD .nil))).or (node.child? key) := by
  induction m generalizing node with
  | nil => simp [overlayMembers, Members.find?]
  | cons pair rest ih =>
    obtain ⟨first, value⟩ := pair
    obtain ⟨hfirst, hrest⟩ := List.nodup_cons.mp hnodup
    rw [overlayMembers, ih hrest, child?_atKey, Members.find?_cons]
    -- The first key is not given again, so nothing is laid over its node any more.
    by_cases hkey : key = first
    · subst hkey
      rw [Members.find?_eq_none hfirst]
      simp
    · simp [hkey, Ne.symm hkey]

/-- A table that is laid over nothing stays a table. -/
theorem isTable_overlayMembers (h : node.isTable = true) (m : Members) :
    (overlayMembers node m).isTable = true := by
  induction m generalizing node with
  | nil => exact h
  | cons pair rest ih => exact ih (isTable_atKey _ _ _)

/-- Nothing but tables is changed when it is laid over nothing. -/
theorem overlay_nil_of_not_isTable (h : node.isTable = false) : overlay .nil node = node := by
  cases node with
  | table => cases h
  | leaf | list => rfl

@[simp] theorem isTable_overlay_nil (node : Node) :
    (overlay .nil node).isTable = node.isTable := by
  cases node with
  | table origin m => exact isTable_overlayMembers rfl m
  | leaf | list => rfl

@[simp] theorem isNil_overlay_nil (node : Node) : (overlay .nil node).isNil = node.isNil := by
  cases htable : node.isTable with
  | true => rw [isNil_of_isTable htable, isNil_of_isTable ((isTable_overlay_nil node).trans htable)]
  | false => rw [overlay_nil_of_not_isTable htable]

theorem onto_cons (key : String) (value : Node) (rest : Layer) (node : Node) :
    Layer.onto ((key, value) :: rest) node = rest.onto (node.assign key value) := rfl

/-- The nodes of a file, none of whose keys is a path, are laid out like those of a table. -/
theorem onto_eq_overlayMembers {layer : Layer}
    (h : ∀ pair ∈ layer, (Path.parse? pair.1).getD [.key pair.1] = [.key pair.1]) (node : Node) :
    layer.onto node = overlayMembers node layer := by
  induction layer generalizing node with
  | nil => rfl
  | cons pair rest ih =>
    obtain ⟨key, value⟩ := pair
    have hassign : node.assign key value = node.atKey key fun old => overlay old value := by
      rw [assign, h (key, value) List.mem_cons_self]
      rfl
    rw [overlayMembers, ← ih fun pair hpair => h pair (List.mem_cons_of_mem _ hpair), ← hassign,
      onto_cons]

/-- Below a table that is laid over nothing there is what there is below the table. -/
theorem child?_overlay_nil (hnodup : (node.members.map Prod.fst).Nodup) (key : String) :
    (overlay .nil node).child? key = (node.child? key).map (overlay .nil) := by
  cases node with
  | table origin m =>
    rw [overlay, child?_overlayMembers (m := m) hnodup]
    exact Option.or_none
  | leaf | list => rfl

end Node

/-- A file that can be read off: no key of its root or of a section is given twice, and none of the
root is a path to some place further down. -/
structure Layer.IsPlain (layer : Layer) : Prop where
  nodup : (layer.map Prod.fst).Nodup
  word : ∀ pair ∈ layer, (Path.parse? pair.1).getD [.key pair.1] = [.key pair.1]
  nodup_part : ∀ pair ∈ layer, (pair.2.members.map Prod.fst).Nodup

namespace Node

variable {layer : Layer}

/-- The sections of the tree of a file are those of the file. -/
theorem child?_onto (h : layer.IsPlain) (key : String) :
    (layer.onto (.table none [])).child? key =
      ((table none layer).child? key).map (overlay .nil) := by
  rw [onto_eq_overlayMembers h.word, child?_overlayMembers h.nodup]
  exact Option.or_none

/-- The values of the tree of a file are those of the file. -/
theorem valueAt?_onto (h : layer.IsPlain) (sectionName name : String) :
    (layer.onto (.table none [])).valueAt? sectionName name =
      ((table none layer).valueAt? sectionName name).map (overlay .nil) := by
  rw [valueAt?, valueAt?, child?_onto h]
  cases hpart : (table none layer).child? sectionName with
  | none => rfl
  | some part =>
    have hmem : (sectionName, part) ∈ layer := Members.mem_of_find? hpart
    rw [Option.map_some, Option.bind_some, Option.bind_some,
      child?_overlay_nil (h.nodup_part _ hmem)]
    cases part.child? name <;> simp [Option.filter]

/-- The tree of a file whose sections are tables has sections that are tables. -/
theorem isSectioned_onto (h : layer.IsPlain) (hsections : (table none layer).IsSectioned) :
    (layer.onto (.table none [])).IsSectioned where
  isTable := by
    rw [onto_eq_overlayMembers h.word]
    exact isTable_overlayMembers rfl layer
  sections name hname part hpart := by
    rw [child?_onto h] at hpart
    obtain ⟨raw, hraw, rfl⟩ := Option.map_eq_some_iff.mp hpart
    rcases hsections.sections name hname raw hraw with hnil | htable
    · exact .inl ((isNil_overlay_nil raw).trans hnil)
    · exact .inr ((isTable_overlay_nil raw).trans htable)

end Node

end FeedRelay.Settings
