import FeedRelay.Proofs.Settings.Leaves
import FeedRelay.Settings.Load

/-!
# Settings leaf by leaf

The environment is laid over the file leaf by leaf. A leaf has a variable, which is named after its
place. The text of a variable hides the value that the file has at the place, so that it does not
matter what that value is. Where neither is given the leaf has its default.

If the sections of the file are tables, the settings are loaded exactly if all values that are not
hidden can be converted. What a variable is set to, or whether it is set, makes no difference for
the other leaves. All this is said of the layer of a file, however the file was read.

## Main definitions

* `Environment.Assigns`: what texts an environment has for the leaves.
* `Leaf.effective?`: the value that counts for a leaf.

## Main results

* `ofLayers_eq_ok_iff`: what is loaded; `ofLayers_of_isPlain` reads it off the file itself.
* `load_leaf_by_leaf`: each leaf is loaded from its own value.
-/

namespace FeedRelay.Settings

namespace Leaf

/-- The name of the variable of a leaf. -/
def variableName (leaf : Leaf) : String :=
  String.ofList (s!"relay_{leaf.sectionName}__{leaf.name}".toList.map Char.toUpper)

/-- The key of the place of a leaf. -/
def key (leaf : Leaf) : String :=
  s!"{leaf.sectionName}.{leaf.name}"

/-- The key of a leaf is the path to its place. -/
theorem parse?_key (leaf : Leaf) :
    Path.parse? leaf.key = some [.key leaf.sectionName, .key leaf.name] := by
  cases leaf <;> decide +kernel

/-- No two leaves have one place. -/
theorem eq_of_place : ∀ leaf other : Leaf,
    leaf.sectionName = other.sectionName ∧ leaf.name = other.name → leaf = other := by
  intro leaf other
  cases leaf <;> cases other <;> decide

theorem key_injective : Function.Injective key := by
  intro leaf other h
  have hplace : [Step.key leaf.sectionName, .key leaf.name] =
      [.key other.sectionName, .key other.name] := by
    rw [← Option.some.injEq, ← parse?_key, ← parse?_key, h]
  exact eq_of_place leaf other (by simpa using hplace)

/-- A value that is put at the place of a leaf is that of the leaf; the others keep theirs. -/
theorem valueIn?_placed {value : Node} (hvalue : value.isNil = false) (tree : Node)
    (leaf other : Leaf) :
    other.valueIn? (tree.placed leaf.sectionName leaf.name value) =
      if other = leaf then some value else other.valueIn? tree := by
  have hplace : other = leaf ↔ other.sectionName = leaf.sectionName ∧ other.name = leaf.name :=
    ⟨fun h => h ▸ ⟨rfl, rfl⟩, eq_of_place other leaf⟩
  rw [valueIn?, Node.valueAt?_placed hvalue]
  simp only [hplace, valueIn?]

/-- A table is no value of a leaf. -/
theorem fails_convert_of_isTable {node : Node} (h : node.isTable = true) (leaf : Leaf) :
    Fails (leaf.convert node) := by
  cases node with
  | leaf | list => cases h
  | table => cases leaf <;> exact ⟨_, rfl⟩

end Leaf

/-! ### The environment -/

namespace Environment

variable {environment : List Variable} {texts : Leaf → Option (List Char)} {leaf : Leaf}
  {v : Variable} {text : List Char}

/-- The node of a text in the environment. -/
def nodeOf (text : List Char) : Node :=
  .leaf (some origin) (scalar text)

/-- Each text in the environment is a value. -/
theorem isNil_nodeOf (text : List Char) : (nodeOf text).isNil = false := by
  have hscalar : scalar text ≠ .nil := by
    unfold scalar
    split
    · exact nofun
    · exact nofun
    · split
      · exact nofun
      · split <;> exact nofun
  unfold nodeOf
  cases h : scalar text with
  | nil => exact absurd h hscalar
  | _ => rfl

/-- An environment has these texts for the leaves: the variable of a leaf has the text of the leaf,
if there is one, and no other variable is a setting. -/
structure Assigns (environment : List Variable) (texts : Leaf → Option (List Char)) : Prop where
  exists_variable : ∀ leaf text, texts leaf = some text →
    ∃ v ∈ environment, v.name = leaf.variableName ∧ Text.Utf8.decode? v.value = some text
  exists_leaf : ∀ v ∈ environment, mark.isPrefixOf (Text.lowerChars v.name.toList) = true →
    ∃ leaf text, v.name = leaf.variableName ∧ Text.Utf8.decode? v.value = some text ∧
      texts leaf = some text

/-- An entry is that of a leaf that has a text. -/
def IsEntry (texts : Leaf → Option (List Char)) (entry : String × Node) : Prop :=
  ∃ leaf text, texts leaf = some text ∧ entry = (leaf.key, nodeOf text)

/-- A layer has an entry for each leaf that has a text, and no others. -/
structure Spells (layer : Layer) (texts : Leaf → Option (List Char)) : Prop where
  isEntry : ∀ entry ∈ layer, IsEntry texts entry
  mem : ∀ leaf text, texts leaf = some text → (leaf.key, nodeOf text) ∈ layer

theorem lowerChars_variableName (leaf : Leaf) :
    Text.lowerChars leaf.variableName.toList =
      mark ++ s!"{leaf.sectionName}__{leaf.name}".toList := by
  cases leaf <;> decide +kernel

theorem dotted_eq_key (leaf : Leaf) :
    String.ofList (dotted s!"{leaf.sectionName}__{leaf.name}".toList) = leaf.key := by
  cases leaf <;> decide +kernel

/-- The variable of a leaf is the setting of the leaf. -/
theorem setting?_of_leaf (hname : v.name = leaf.variableName)
    (htext : Text.Utf8.decode? v.value = some text) :
    setting? v = .ok (some (leaf.key, nodeOf text)) := by
  have hmark (rest : List Char) : mark.isPrefixOf (mark ++ rest) = true :=
    List.isPrefixOf_iff_prefix.mpr (List.prefix_append mark rest)
  simp only [setting?, hname, lowerChars_variableName, List.drop_left, htext, dotted_eq_key]
  rw [if_pos (hmark _), nodeOf]

/-- The variables of an environment are settings of leaves that have texts, or none. -/
theorem Assigns.exists_setting? (h : Assigns environment texts) (hv : v ∈ environment) :
    ∃ setting, setting? v = .ok setting ∧ ∀ entry ∈ setting, IsEntry texts entry := by
  by_cases hmark : mark.isPrefixOf (Text.lowerChars v.name.toList) = true
  · obtain ⟨leaf, text, hname, hvalue, htext⟩ := h.exists_leaf v hv hmark
    refine ⟨_, setting?_of_leaf hname hvalue, ?_⟩
    rintro _ ⟨⟩
    exact ⟨leaf, text, htext, rfl⟩
  · exact ⟨none, by rw [setting?, if_neg hmark], nofun⟩

/-- An entry that is added takes none of the others away. -/
private theorem mem_add_of_mem {layer : Layer} {new old : String × Node} (hnew : IsEntry texts new)
    (hold : IsEntry texts old) (h : old ∈ layer) : old ∈ add layer new.1 new.2 := by
  obtain ⟨leaf, text, htext, rfl⟩ := hnew
  obtain ⟨other, otherText, hother, rfl⟩ := hold
  by_cases hkey : other.key = leaf.key
  · obtain rfl := Leaf.key_injective hkey
    obtain rfl := Option.some.inj (htext.symm.trans hother)
    simp [add]
  · simp [add, h, hkey]

/-- Add the setting of a variable, if it is one. -/
private def addSetting (layer : Layer) (v : Variable) : Except Fault Layer := do
  match ← setting? v with
  | some (key, node) => return add layer key node
  | none => return layer

/-- A setting that is added is there, and so are those that were there. -/
private theorem addSetting_spec {lower : Layer}
    (h : ∃ setting, setting? v = .ok setting ∧ ∀ entry ∈ setting, IsEntry texts entry)
    (hlower : ∀ entry ∈ lower, IsEntry texts entry) :
    ∃ upper, addSetting lower v = .ok upper ∧ (∀ entry ∈ upper, IsEntry texts entry) ∧
      (∀ entry ∈ lower, entry ∈ upper) ∧
      ∀ entry, setting? v = .ok (some entry) → entry ∈ upper := by
  obtain ⟨setting, hsetting, hentry⟩ := h
  rw [addSetting, hsetting]
  cases setting with
  | none => exact ⟨lower, rfl, hlower, fun _ hmem => hmem, nofun⟩
  | some new =>
    have hnew := hentry new rfl
    refine ⟨add lower new.1 new.2, rfl, fun entry hmem => ?_,
      fun old hold => mem_add_of_mem hnew (hlower old hold) hold, ?_⟩
    · rcases List.mem_append.mp hmem with hmem | hmem
      · exact hlower entry (List.mem_filter.mp hmem).1
      · rwa [List.mem_singleton.mp hmem]
    · rintro _ ⟨⟩
      exact List.mem_append_right _ List.mem_cons_self

/-- The settings of variables are added one after the other, and all of them are there then. -/
private theorem exists_foldlM (lower : Layer) (h : ∀ v ∈ environment,
      ∃ setting, setting? v = .ok setting ∧ ∀ entry ∈ setting, IsEntry texts entry)
    (hlower : ∀ entry ∈ lower, IsEntry texts entry) :
    ∃ upper, environment.foldlM addSetting lower = .ok upper ∧
      (∀ entry ∈ upper, IsEntry texts entry) ∧ (∀ entry ∈ lower, entry ∈ upper) ∧
      ∀ v ∈ environment, ∀ entry, setting? v = .ok (some entry) → entry ∈ upper := by
  induction environment generalizing lower with
  | nil => exact ⟨lower, rfl, hlower, fun _ hentry => hentry, nofun⟩
  | cons v rest ih =>
    obtain ⟨next, hnext, hentries, hkept, hnew⟩ := addSetting_spec (h v List.mem_cons_self) hlower
    obtain ⟨upper, hupper, hall, hlater, hmem⟩ :=
      ih next (fun w hw => h w (List.mem_cons_of_mem v hw)) hentries
    refine ⟨upper, ?_, hall, fun entry hentry => hlater entry (hkept entry hentry),
      fun w hw entry hsetting => ?_⟩
    · rw [List.foldlM_cons, hnext]
      exact hupper
    · rcases List.mem_cons.mp hw with rfl | hw
      · exact hlater entry (hnew entry hsetting)
      · exact hmem w hw entry hsetting

/-- The layer of an environment spells the texts of the environment. -/
theorem Assigns.exists_layer (h : Assigns environment texts) :
    ∃ upper, layer environment = .ok upper ∧ Spells upper texts := by
  obtain ⟨upper, hupper, hentries, -, hmem⟩ :=
    exists_foldlM [] (fun v hv => h.exists_setting? hv) nofun
  refine ⟨upper, hupper, hentries, fun leaf text htext => ?_⟩
  obtain ⟨v, hv, hname, hvalue⟩ := h.exists_variable leaf text htext
  exact hmem v hv _ (setting?_of_leaf hname hvalue)

end Environment

/-! ### The layers -/

namespace Leaf

/-- The value that counts for a leaf: that of the environment, or else that of a tree. -/
def effective? (leaf : Leaf) (tree : Node) (texts : Leaf → Option (List Char)) : Option Node :=
  ((texts leaf).map Environment.nodeOf).or (leaf.valueIn? tree)

/-- A leaf of settings is from a value: the value converts to it, or there is none and it has its
default. -/
def IsFrom (leaf : Leaf) (settings : Settings) : Option Node → Prop
  | some node => leaf.convert node = .ok (leaf.get settings)
  | none => leaf.get settings = leaf.get Settings.default

end Leaf

namespace Node

variable {tree : Node} {texts : Leaf → Option (List Char)} {upper : Layer}

/-- A layer of entries laid over a tree: the tree keeps its sections, and a leaf that has an entry
has the value of its text, the others have theirs. -/
theorem onto_spec (h : ∀ entry ∈ upper, Environment.IsEntry texts entry)
    (htree : tree.IsSectioned) :
    (upper.onto tree).IsSectioned ∧ ∀ leaf : Leaf, leaf.valueIn? (upper.onto tree) =
      if leaf.key ∈ upper.map Prod.fst then (texts leaf).map Environment.nodeOf
      else leaf.valueIn? tree := by
  induction upper generalizing tree with
  | nil => exact ⟨htree, fun leaf => rfl⟩
  | cons entry rest ih =>
    -- Entries further up win, but all entries of one leaf have the node of its one text.
    obtain ⟨leaf, text, htext, rfl⟩ := h entry List.mem_cons_self
    have hassign : tree.assign leaf.key (Environment.nodeOf text) =
        tree.placed leaf.sectionName leaf.name (Environment.nodeOf text) :=
      assign_eq_placed leaf.parse?_key tree
    obtain ⟨hsectioned, hvalues⟩ := ih (fun other hother => h other (List.mem_cons_of_mem _ hother))
      (htree.placed leaf.sectionName leaf.name (Environment.nodeOf text))
    rw [onto_cons, hassign]
    refine ⟨hsectioned, fun other => (hvalues other).trans ?_⟩
    rw [Leaf.valueIn?_placed (Environment.isNil_nodeOf text)]
    by_cases hrest : other.key ∈ rest.map Prod.fst
    · simp [hrest]
    · by_cases hother : other = leaf
      · subst hother
        simp [hrest, htext]
      · simp [hrest, hother, Leaf.key_injective.ne hother]

/-- The environment laid over a tree: each leaf has the value that counts. -/
theorem valueIn?_onto (h : Environment.Spells upper texts) (htree : tree.IsSectioned) :
    (upper.onto tree).IsSectioned ∧
      ∀ leaf : Leaf, leaf.valueIn? (upper.onto tree) = leaf.effective? tree texts := by
  obtain ⟨hsectioned, hvalues⟩ := onto_spec h.isEntry htree
  refine ⟨hsectioned, fun leaf => ?_⟩
  rw [hvalues, Leaf.effective?]
  cases htext : texts leaf with
  | some text =>
    rw [if_pos (List.mem_map_of_mem (h.mem leaf text htext))]
    rfl
  | none =>
    have hnone : leaf.key ∉ upper.map Prod.fst := by
      intro hmem
      obtain ⟨entry, hentry, hkey⟩ := List.mem_map.mp hmem
      obtain ⟨other, text, hother, rfl⟩ := h.isEntry entry hentry
      obtain rfl := Leaf.key_injective hkey
      cases htext.symm.trans hother
    rw [if_neg hnone]
    rfl

end Node

/-! ### Loading -/

/-- The tree of a file. -/
def Layer.tree (file : Layer) : Node :=
  file.onto (.table none [])

section Load

variable {environment : List Variable} {file : Layer}
  {texts : Leaf → Option (List Char)} {settings other : Settings} {leaf : Leaf}

namespace Leaf

/-- A value that counts is not looked for in a tree if there is a text. -/
theorem effective?_congr {tree otherTree : Node}
    (h : texts leaf = none → leaf.valueIn? otherTree = leaf.valueIn? tree) :
    leaf.effective? otherTree texts = leaf.effective? tree texts := by
  unfold effective?
  cases htext : texts leaf with
  | none => exact h htext
  | some text => rfl

/-- Where a leaf is from one value, it is the same. -/
theorem IsFrom.get_eq {value : Option Node} (h : leaf.IsFrom settings value)
    (hother : leaf.IsFrom other value) : leaf.get settings = leaf.get other := by
  cases value with
  | none => exact Eq.trans h hother.symm
  | some node => exact Except.ok.inj (Eq.trans (Eq.symm h) hother)

/-- A leaf that is taken from a value, or has its default, is from the value. -/
theorem isFrom_of_taken {given : Given} {value : Option Node}
    (h : Node.taken leaf.convert value = .ok (leaf.get? given)) :
    leaf.IsFrom given.complete value := by
  cases hget : leaf.get? given with
  | none =>
    rw [hget, Node.taken_eq_ok_none_iff] at h
    rw [h, IsFrom, get_complete, hget]
    rfl
  | some a =>
    rw [hget, Node.taken_eq_ok_some_iff] at h
    obtain ⟨node, rfl, hnode⟩ := h
    rw [IsFrom, get_complete, hget, hnode]
    rfl

/-- A leaf is read off a file that can be read off. -/
theorem taken_tree_iff (h : file.IsPlain) {a : Option leaf.Value} :
    Node.taken leaf.convert (leaf.valueIn? file.tree) = .ok a ↔
      Node.taken leaf.convert (leaf.valueIn? (.table none file)) = .ok a := by
  rw [valueIn?, valueIn?, Layer.tree, Node.valueAt?_onto h]
  cases (Node.table none file).valueAt? leaf.sectionName leaf.name with
  | none => rfl
  | some node =>
    cases htable : node.isTable with
    | false => rw [Option.map_some, Node.overlay_nil_of_not_isTable htable]
    | true =>
      -- A table converts to nothing, in whatever order its members are.
      obtain ⟨e, he⟩ := leaf.fails_convert_of_isTable htable
      obtain ⟨e', he'⟩ :=
        leaf.fails_convert_of_isTable ((Node.isTable_overlay_nil node).trans htable)
      simp [Node.taken, he, he', Except.map]

end Leaf

/-- What is loaded: what the values that count convert to, and the defaults. -/
theorem ofLayers_eq_ok_iff (hsections : file.tree.IsSectioned)
    (henvironment : Environment.Assigns environment texts) :
    ofLayers file environment = .ok settings ↔
      ∃ given : Given, (∀ leaf : Leaf,
        Node.taken leaf.convert (leaf.effective? file.tree texts) = .ok (leaf.get? given)) ∧
          given.complete = settings := by
  obtain ⟨upper, hupper, hspells⟩ := henvironment.exists_layer
  obtain ⟨hsectioned, hvalues⟩ := Node.valueIn?_onto hspells hsections
  simp only [ofLayers, hupper, bind_eq_ok_iff, Except.ok.injEq, exists_eq_left']
  refine exists_congr fun given => and_congr ?_ ⟨Except.ok.inj, congrArg _⟩
  refine (Node.toGiven_eq_ok_iff hsectioned).trans (forall_congr' fun leaf => ?_)
  rw [hvalues]

/-- The settings of a file that can be read off. -/
theorem ofLayers_of_isPlain (hplain : file.IsPlain)
    (hsections : (Node.table none file).IsSectioned)
    (henvironment : Environment.Assigns environment texts) :
    ofLayers file environment = .ok settings ↔
      ∃ given : Given, (∀ leaf : Leaf,
        Node.taken leaf.convert (leaf.effective? (.table none file) texts) =
          .ok (leaf.get? given)) ∧ given.complete = settings := by
  rw [ofLayers_eq_ok_iff (Node.isSectioned_onto hplain hsections) henvironment]
  refine exists_congr fun given => and_congr (forall_congr' fun leaf => ?_) Iff.rfl
  rw [Leaf.effective?, Leaf.effective?]
  cases texts leaf with
  | none => exact Leaf.taken_tree_iff hplain
  | some text => rfl

/-- Settings are loaded exactly if each value that counts can be converted. -/
theorem exists_settings_iff (hsections : file.tree.IsSectioned)
    (henvironment : Environment.Assigns environment texts) :
    (∃ settings, ofLayers file environment = .ok settings) ↔
      ∀ (leaf : Leaf) (node : Node), leaf.effective? file.tree texts = some node →
        ∃ value, leaf.convert node = .ok value := by
  simp only [ofLayers_eq_ok_iff hsections henvironment]
  constructor
  · rintro ⟨_, given, htaken, -⟩ leaf node hnode
    have h := htaken leaf
    rw [hnode] at h
    obtain ⟨value, hvalue, -⟩ := exists_of_map_eq_ok h
    exact ⟨value, hvalue⟩
  · intro h
    have htaken (leaf : Leaf) :
        ∃ value, Node.taken leaf.convert (leaf.effective? file.tree texts) = .ok value := by
      cases hnode : leaf.effective? file.tree texts with
      | none => exact ⟨none, rfl⟩
      | some node =>
        obtain ⟨value, hvalue⟩ := h leaf node hnode
        exact ⟨some value, by rw [Node.taken, hvalue]; rfl⟩
    refine ⟨_, Leaf.given fun leaf => (htaken leaf).choose, fun leaf => ?_, rfl⟩
    rw [Leaf.get?_given]
    exact (htaken leaf).choose_spec

/-- Each leaf of settings that are loaded is from the value that counts for it. -/
theorem isFrom_of_ofLayers (hsections : file.tree.IsSectioned)
    (henvironment : Environment.Assigns environment texts)
    (h : ofLayers file environment = .ok settings) (leaf : Leaf) :
    leaf.IsFrom settings (leaf.effective? file.tree texts) := by
  obtain ⟨given, htaken, rfl⟩ := (ofLayers_eq_ok_iff hsections henvironment).mp h
  exact Leaf.isFrom_of_taken (htaken leaf)

/-- Each leaf is loaded from the value that counts for it: from the text of its variable if there is
one, else from the value that the file has, and it has its default if there is neither. The settings
are loaded exactly if each of these values can be converted. So it makes no difference what a file
has where there is a text, and what text there is for one leaf, if any, for the others. The values
of a file are those of the tree that its layer is laid out to. If no key of the file is a path or is
given twice, they are those of the file itself. All this is said of any layer, and files that can be
read are loaded as the layer that was read. -/
theorem load_leaf_by_leaf (hsections : file.tree.IsSectioned)
    (henvironment : Environment.Assigns environment texts) :
    (∀ files (layer : Layer) given, fileLayer files = .ok layer →
        load files given = ofLayers layer given) ∧
      ((∃ settings, ofLayers file environment = .ok settings) ↔
        ∀ (leaf : Leaf) (node : Node), leaf.effective? file.tree texts = some node →
          ∃ value, leaf.convert node = .ok value) ∧
      (∀ settings, ofLayers file environment = .ok settings →
        ∀ leaf : Leaf, leaf.IsFrom settings (leaf.effective? file.tree texts)) ∧
      (∀ otherFile : Layer, otherFile.tree.IsSectioned →
        (∀ leaf : Leaf, texts leaf = none →
          leaf.valueIn? otherFile.tree = leaf.valueIn? file.tree) →
        ∀ settings, ofLayers otherFile environment = .ok settings ↔
          ofLayers file environment = .ok settings) ∧
      (∀ otherEnvironment otherTexts (leaf : Leaf),
        Environment.Assigns otherEnvironment otherTexts →
        (∀ other ≠ leaf, otherTexts other = texts other) →
        ∀ settings otherSettings, ofLayers file environment = .ok settings →
          ofLayers file otherEnvironment = .ok otherSettings →
          ∀ other ≠ leaf, other.get otherSettings = other.get settings) ∧
      ∀ plain : Layer, plain.IsPlain → (Node.table none plain).IsSectioned →
        plain.tree.IsSectioned ∧
        ∀ settings, ofLayers plain environment = .ok settings ↔
          ∃ given : Given, (∀ leaf : Leaf,
            Node.taken leaf.convert (leaf.effective? (.table none plain) texts) =
              .ok (leaf.get? given)) ∧ given.complete = settings := by
  refine ⟨fun files layer given hfile => by rw [load, hfile]; rfl,
    exists_settings_iff hsections henvironment,
    fun settings => isFrom_of_ofLayers hsections henvironment,
    fun otherFile otherSections hsame settings => ?_,
    fun otherEnvironment otherTexts leaf hother hsame settings otherSettings hload hotherLoad other
      hne => ?_,
    fun plain hplain hparts => ⟨Node.isSectioned_onto hplain hparts, fun settings =>
      ofLayers_of_isPlain hplain hparts henvironment⟩⟩
  · rw [ofLayers_eq_ok_iff otherSections henvironment, ofLayers_eq_ok_iff hsections henvironment]
    have heffective (leaf : Leaf) : leaf.effective? otherFile.tree texts =
        leaf.effective? file.tree texts := Leaf.effective?_congr (hsame leaf)
    simp only [heffective]
  · have hvalue := isFrom_of_ofLayers hsections hother hotherLoad other
    rw [Leaf.effective?, hsame other hne, ← Leaf.effective?] at hvalue
    exact hvalue.get_eq (isFrom_of_ofLayers hsections henvironment hload other)

/-! A file with a word for a number that a variable hides. -/

private def bytesOf (text : String) : List UInt8 :=
  text.toList.map fun c => .ofNat c.toNat

/-- A file with a number that is none, and a value that is none. -/
def wordFile : File where
  name := "config/default.json"
  bytes := bytesOf
    "\x7b\"server\":\x7b\"host\":\"a\",\"port\":\"none\"\x7d,\"logging\":\x7b\"level\":null\x7d\x7d"

/-- An environment with a variable that is no setting. -/
def twoVariables : List Variable :=
  [⟨"PATH", [0xFF]⟩, ⟨"RELAY_SERVER__PORT", bytesOf "9000"⟩,
    ⟨"RELAY_RECONNECT__ENABLED", bytesOf "on"⟩]

/-- The texts of the environment. -/
def twoTexts : Leaf → Option (List Char)
  | .number => some "9000".toList
  | .enabled => some "on".toList
  | _ => none

theorem assigns_twoTexts : Environment.Assigns twoVariables twoTexts where
  exists_variable leaf text htext := by
    cases leaf with
    | number =>
      obtain rfl := Option.some.inj htext
      exact ⟨_, List.mem_cons_of_mem _ List.mem_cons_self, by decide +kernel⟩
    | enabled =>
      obtain rfl := Option.some.inj htext
      exact ⟨_, List.mem_cons_of_mem _ (List.mem_cons_of_mem _ List.mem_cons_self),
        by decide +kernel⟩
    | _ => cases htext
  exists_leaf v hv hmark := by
    simp only [twoVariables, List.mem_cons, List.not_mem_nil, or_false] at hv
    rcases hv with rfl | rfl | rfl
    · exact absurd hmark (by decide +kernel)
    · exact ⟨.number, _, by decide +kernel, by decide +kernel, rfl⟩
    · exact ⟨.enabled, _, by decide +kernel, by decide +kernel, rfl⟩

/-- The number of a file cannot be converted, but a variable hides it. -/
theorem load_of_hidden_word :
    ∃ file settings, fileLayer [wordFile] = .ok file ∧ file.tree.IsSectioned ∧
      (∃ node, Leaf.number.valueIn? file.tree = some node ∧ Fails (Leaf.number.convert node)) ∧
      load [wordFile] twoVariables = .ok settings ∧
      (∀ leaf : Leaf, leaf.IsFrom settings (leaf.effective? file.tree twoTexts)) ∧
      settings.server = { host := "a", number := 9000 } ∧ settings.reconnect.enabled = true ∧
      settings.logLevel = default.logLevel := by
  have hseen : ((fileLayer [wordFile]).toOption.bind fun file =>
      (Leaf.number.valueIn? file.tree).map fun node =>
        (decide file.tree.IsSectioned, (Node.toNarrow 16 node).toOption)) = some (true, none) := by
    decide +kernel
  have hloaded : ((load [wordFile] twoVariables).toOption.map fun settings =>
      (settings.server, settings.reconnect.enabled, settings.logLevel)) =
        some ({ host := "a", number := 9000 }, true, default.logLevel) := by
    decide +kernel
  obtain ⟨file, hfile, hseen⟩ := Option.bind_eq_some_iff.mp hseen
  obtain ⟨node, hnode, hseen⟩ := Option.map_eq_some_iff.mp hseen
  obtain ⟨settings, hload, hsettings⟩ := Option.map_eq_some_iff.mp hloaded
  obtain ⟨hsections, hword⟩ := Prod.mk.inj hseen
  simp only [Prod.mk.injEq] at hsettings
  replace hfile := eq_ok_of_toOption hfile
  replace hload := eq_ok_of_toOption hload
  have hsections : file.tree.IsSectioned := of_decide_eq_true hsections
  obtain ⟨hlayers, -, hfrom, -⟩ := load_leaf_by_leaf hsections assigns_twoTexts
  have hfrom := hfrom settings ((hlayers _ _ _ hfile).symm.trans hload)
  exact ⟨file, settings, hfile, hsections, ⟨node, hnode, fails_of_toOption hword⟩, hload, hfrom,
    hsettings⟩

end Load

end FeedRelay.Settings
