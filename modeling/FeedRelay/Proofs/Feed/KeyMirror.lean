import FeedRelay.Proofs.Feed.KeyView

/-!
# Services of one key

A service of one key mirrors a service of many keys if it stands where the other one stands with
this key: it has the tasks of the key under numbers of its own, the entry of the key, and its call
if the call concerns the key (`Service.Mirrors`). What a service of many keys does to another key
leaves its mirror as it is; what it does to the key, its mirror does as well. The one difference is
in the order of a teardown of all tasks: the mirror tears down its own task at once, and the task
stops when it is its turn.
-/

namespace FeedRelay.Feed

namespace Call

/-- The tasks that a call will let see that they have to stop. -/
def due : Call → List Nat
  | .clearing _ rest => rest
  | _ => []

theorem notMem_due {call : Call} (h : call.isClearing = false) (n : Nat) : n ∉ call.due := by
  cases call with
  | clearing => cases h
  | _ => exact List.not_mem_nil

end Call

namespace Service

variable {s s' t t' : Service} {key : String} {m n : Nat} {f : Follower} {topic : Topic}

/-! ### Tasks of a key -/

theorem rank_eq (h : t.followers = s.followers) : t.rank = s.rank := by
  funext key n
  rw [rank, rank, h]

/-- A task that starts comes behind the others. -/
theorem rank_follow {url : Option Url} (h : n ≤ s.followers.length) :
    (s.follow topic url).1.rank key n = s.rank key n := by
  rw [rank, followers_follow, List.take_append_of_le_length h, rank]

theorem rank_length (s : Service) (key : String) :
    s.rank key s.followers.length = (s.followers.filter (·.key = key)).length := by
  rw [rank, List.take_length, List.countP_eq_length_filter]

theorem follower?_filter (hf : s.follower? n = some f) (hkey : f.key = key) :
    (s.followers.filter (·.key = key))[s.rank key n]? = some f :=
  getElem?_filter hf (decide_eq_true hkey)

/-- Whether a task may see that it has to stop. -/
def isDismissed (s : Service) (n : Nat) : Bool :=
  s.tasks[n]?.any Task.dismissed

theorem isDismissed_dismiss_iff (hf : s.follower? n = some f) :
    (s.dismiss m).isDismissed n = true ↔ s.isDismissed n = true ∨ m = n := by
  obtain ⟨task, htask, -⟩ := follower?_eq_some.mp hf
  rw [isDismissed, dismiss, List.getElem?_modify, htask, isDismissed, htask]
  by_cases hmn : m = n
  · simp [hmn]
  · simp [hmn]

theorem followers_put (s : Service) (n : Nat) (task : Task) :
    (s.put n task).followers = s.followers.set n task.follower :=
  List.map_set

theorem isDismissed_put {task old : Task} (htask : s.tasks[m]? = some old)
    (h : task.dismissed = old.dismissed) : (s.put m task).isDismissed n = s.isDismissed n := by
  have hlt : m < s.tasks.length := (List.getElem?_eq_some_iff.mp htask).1
  rw [isDismissed, put, isDismissed]
  by_cases hmn : m = n
  · subst hmn
    rw [List.getElem?_set_self hlt, htask, Option.any_some, Option.any_some, h]
  · rw [List.getElem?_set_ne hmn]

/-- A task that starts need not stop, and the others are as before. -/
theorem isDismissed_follow {url : Option Url}
    (h : (s.follow topic url).1.isDismissed n = true) :
    n < s.tasks.length ∧ s.isDismissed n = true := by
  obtain ⟨task, htask, hdismissed⟩ := (Option.any_eq_true _ _).mp h
  rcases getElem?_concat_eq_some.mp htask with htask | ⟨-, rfl⟩
  · refine ⟨(List.getElem?_eq_some_iff.mp htask).1, ?_⟩
    rw [isDismissed, htask]
    exact hdismissed
  · cases hdismissed

theorem isDismissed_follow_of {url : Option Url} (h : s.isDismissed n = true) :
    (s.follow topic url).1.isDismissed n = true := by
  obtain ⟨task, htask, hdismissed⟩ := (Option.any_eq_true _ _).mp h
  refine (Option.any_eq_true _ _).mpr ⟨task, ?_, hdismissed⟩
  exact getElem?_concat_eq_some.mpr (Or.inl htask)

/-! ### Entries of a key -/

theorem entryOf_eq_none (h : ∀ n ∈ s.entries, s.keyOf n ≠ key) : s.entryOf key = none := by
  simpa [entryOf] using h

theorem entryOf_takeDown_self {call : Call} : (s.takeDown key n call).entryOf key = none := by
  refine entryOf_eq_none fun m hm => ?_
  rw [keyOf_eq (s.followers_takeDown key n call)]
  exact (mem_entries_takeDown.mp hm).2

theorem entryOf_takeDown_of_ne {other : String} {call : Call} (h : other ≠ key) :
    (s.takeDown other n call).entryOf key = s.entryOf key := by
  rw [entryOf, keyOf_eq (s.followers_takeDown other n call), entryOf]
  have hentries : (s.takeDown other n call).entries = s.entries.filter (s.keyOf · ≠ other) := rfl
  rw [hentries, List.find?_filter]
  refine List.find?_congr fun m _ => ?_
  by_cases hm : s.keyOf m = key
  · simp [hm, h.symm]
  · simp [hm]

/-- A task that is put in its place is found under its key, and the others under theirs. -/
theorem find?_place (look : Nat → String) {list : List Nat} (hfree : ∀ m ∈ list, look m ≠ look n) :
    (place look n list).find? (look · = key) =
      if look n = key then some n else list.find? (look · = key) := by
  induction list with
  | nil => by_cases hn : look n = key <;> simp [place, hn]
  | cons m rest ih =>
    have hm := hfree m List.mem_cons_self
    have hrest := ih fun l hl => hfree l (List.mem_cons_of_mem _ hl)
    rw [place, if_neg hm.symm]
    by_cases hn : look n = key
    · have hmkey : look m ≠ key := hn ▸ hm
      split <;> simp_all
    · split <;> simp_all [List.find?_cons]

theorem keyOf_follow_of_lt {url : Option Url} (h : n < s.followers.length) :
    (s.follow topic url).1.keyOf n = s.keyOf n := by
  obtain ⟨f, hf⟩ := exists_follower? h
  rw [keyOf_of_follower? hf, keyOf_of_follower? (follower?_follow.mpr (Or.inl hf))]

/-- A task that starts becomes the entry of its key. -/
theorem entryOf_follow (hs : s.Orderly) (hcall : s.call = .connecting topic) {url : Option Url} :
    (s.follow topic url).1.entryOf key =
      if topic.displayKey = key then some s.tasks.length else s.entryOf key := by
  have hold : ∀ m ∈ s.entries, (s.follow topic url).1.keyOf m = s.keyOf m := fun m hm =>
    keyOf_follow_of_lt (hs.lt_of_mem_entries hm)
  refine (find?_place (s.follow topic url).1.keyOf fun m hm => ?_).trans ?_
  · rw [hold m hm]
    exact (keyOf_follow s topic url).symm ▸ hs.free topic (by rw [hcall]; rfl) m hm
  · rw [keyOf_follow]
    exact if_congr Iff.rfl rfl (List.find?_congr fun m hm => by rw [hold m hm])

/-! ### The view of a key -/

/-- The call that a service makes, if it concerns a key and no other. -/
def callOf (s : Service) (key : String) : Call :=
  if s.isBusyWith key then
    match s.call with
    | .replacing topic n => .replacing topic (s.rank key n)
    | .dropping n => .dropping (s.rank key n)
    | call => call
  else .idle

/-- A service that serves one key only, and that stands where another one stands with this key. When
all tasks are torn down, it may let its own see early that it has to stop, and it may have nothing
to tear down. -/
structure Mirrors (s : Service) (key : String) (t : Service) : Prop where
  followers_eq : t.followers = s.followers.filter (·.key = key)
  entries_eq : t.entries = ((s.entryOf key).map (s.rank key)).toList
  dismissed : ∀ n f, s.follower? n = some f → f.key = key →
    s.isDismissed n = true ∨ n ∈ s.call.due → t.isDismissed (s.rank key n) = true
  call_eq : s.call.isClearing = false → t.call = s.callOf key
  replaced : ∀ topic n, s.call = .replacing topic n → s.keyOf n = topic.displayKey
  clearing : s.call.isClearing = true → s.entries = [] ∧ (t.call = .idle ∨
    ∃ n f, s.follower? n = some f ∧ f.key = key ∧ t.call = .clearing (s.rank key n) [])

theorem mirrors_start (base : Url) (policy : ReconnectPolicy) (key : String) :
    (start base policy).Mirrors key (start base policy) where
  followers_eq := rfl
  entries_eq := rfl
  dismissed n f hf := by cases hf
  call_eq _ := rfl
  replaced topic n h := by cases h
  clearing h := by cases h

namespace Mirrors

theorem key_eq (h : s.Mirrors key t) : ∀ f ∈ t.followers, f.key = key := by
  intro f hf
  rw [h.followers_eq] at hf
  simpa using (List.mem_filter.mp hf).2

theorem follower?_rank (h : s.Mirrors key t) (hf : s.follower? n = some f) (hkey : f.key = key) :
    t.follower? (s.rank key n) = some f := by
  rw [follower?, h.followers_eq]
  exact follower?_filter hf hkey

theorem keyOf_rank (h : s.Mirrors key t) (hf : s.follower? n = some f) (hkey : f.key = key) :
    t.keyOf (s.rank key n) = key :=
  (keyOf_of_follower? (h.follower?_rank hf hkey)).trans hkey

theorem isOver_rank (h : s.Mirrors key t) (hf : s.follower? n = some f) (hkey : f.key = key) :
    t.isOver (s.rank key n) = s.isOver n := by
  rw [isOver, h.follower?_rank hf hkey, isOver, hf]

/-- Where only one key is served, the tasks of the key are all tasks. -/
theorem rank_rank (h : s.Mirrors key t) (hf : s.follower? n = some f) (hkey : f.key = key) :
    t.rank key (s.rank key n) = s.rank key n := by
  have hlt := (List.getElem?_eq_some_iff.mp (h.follower?_rank hf hkey)).1
  rw [rank, List.countP_eq_length.mpr, List.length_take, Nat.min_eq_left hlt.le]
  intro g hg
  exact decide_eq_true (h.key_eq g (List.mem_of_mem_take hg))

theorem mem_entries (h : s.Mirrors key t) (hs : s.Orderly) (hm : m ∈ t.entries) :
    ∃ n f, s.entryOf key = some n ∧ s.follower? n = some f ∧ f.key = key ∧ m = s.rank key n := by
  rw [h.entries_eq] at hm
  obtain ⟨n, hn, rfl⟩ := Option.map_eq_some_iff.mp (Option.mem_toList.mp hm)
  obtain ⟨hmem, hkey⟩ := entryOf_eq_some hn
  obtain ⟨f, hf⟩ := exists_follower? (hs.lt_of_mem_entries hmem)
  rw [keyOf_of_follower? hf] at hkey
  exact ⟨n, f, hn, hf, hkey, rfl⟩

theorem entryOf_eq (h : s.Mirrors key t) (hs : s.Orderly) :
    t.entryOf key = (s.entryOf key).map (s.rank key) := by
  rw [Service.entryOf, h.entries_eq]
  cases hn : s.entryOf key with
  | none => rfl
  | some n =>
    obtain ⟨hmem, hkey⟩ := entryOf_eq_some hn
    obtain ⟨f, hf⟩ := exists_follower? (hs.lt_of_mem_entries hmem)
    rw [keyOf_of_follower? hf] at hkey
    simp [h.keyOf_rank hf hkey]

theorem state?_eq (h : s.Mirrors key t) (hs : s.Orderly) (ht : t.Orderly) :
    t.roster.state? key = s.roster.state? key := by
  rw [hs.state?_roster, ht.state?_roster, h.entryOf_eq hs]
  cases hn : s.entryOf key with
  | none => rfl
  | some n =>
    obtain ⟨hmem, hkey⟩ := entryOf_eq_some hn
    obtain ⟨f, hf⟩ := exists_follower? (hs.lt_of_mem_entries hmem)
    rw [keyOf_of_follower? hf] at hkey
    simp [hf, h.follower?_rank hf hkey]

theorem statesOf_eq (h : s.Mirrors key t) : t.statesOf key = s.statesOf key := by
  rw [statesOf, h.followers_eq, List.filter_filter, statesOf]
  simp

theorem isLive_eq (h : s.Mirrors key t) (hs : s.Orderly) (ht : t.Orderly) :
    t.roster.isLive key = s.roster.isLive key := by
  rw [Roster.isLive, h.state?_eq hs ht, Roster.isLive]

theorem standing_eq (h : s.Mirrors key t) (h' : s'.Mirrors key t') (hs : s.Orderly)
    (ht : t.Orderly) (hs' : s'.Orderly) (ht' : t'.Orderly) :
    t.standing t' key = s.standing s' key := by
  rw [standing, h.state?_eq hs ht, h'.state?_eq hs' ht', h.statesOf_eq, h'.statesOf_eq, standing]

/-- A call goes on, and nothing else. -/
theorem changeCall (h : s.Mirrors key t) {call call' : Call} (hcall : call.awaited = [])
    (hmirror : call' = ({ s with call } : Service).callOf key) :
    ({ s with call } : Service).Mirrors key { t with call := call' } where
  followers_eq := h.followers_eq
  entries_eq := h.entries_eq
  dismissed n f hf hkey hdue :=
    have hnone := Call.notMem_due (Call.isClearing_of_awaited hcall) n
    h.dismissed n f hf hkey (Or.inl (hdue.resolve_right hnone))
  call_eq _ := hmirror
  replaced topic n hn := by
    cases hn
    cases hcall
  clearing hclearing :=
    nomatch hclearing.symm.trans (Call.isClearing_of_awaited hcall)

/-- A call goes on that does not concern the key. -/
theorem changeCall_of_not_busy (h : s.Mirrors key t) {call : Call} (hcall : call.awaited = [])
    (hidle : t.call = .idle) (hbusy : ({ s with call } : Service).isBusyWith key = false) :
    ({ s with call } : Service).Mirrors key t := by
  have hchanged := h.changeCall hcall (hidle.trans (by rw [callOf, hbusy]; rfl))
  exact hchanged

/-- The task of another key is taken down: the service of one key does nothing. -/
theorem takeDown_of_ne (h : s.Mirrors key t) {other : String} (hn : s.entryOf other = some n)
    (hother : other ≠ key) (hidle : s.call = .idle) {call : Call} (hcall : call.isClearing = false)
    (hbusy : (s.takeDown other n call).isBusyWith key = false)
    (hreplaced : ∀ topic m, call = .replacing topic m → s.keyOf m = topic.displayKey) :
    (s.takeDown other n call).Mirrors key t := by
  have hfollowers := s.followers_takeDown other n call
  have hfollower : (s.takeDown other n call).follower? = s.follower? := by
    funext m
    rw [follower?, hfollowers, follower?]
  refine ⟨by rw [hfollowers, h.followers_eq], ?_, fun m f hf hkey hdue => ?_, fun _ => ?_, ?_,
    fun hclearing => absurd hclearing (ne_true_of_eq_false hcall)⟩
  · rw [entryOf_takeDown_of_ne hother, rank_eq hfollowers]
    exact h.entries_eq
  · rw [hfollower] at hf
    rw [rank_eq hfollowers]
    have hdismissed : (s.dismiss n).isDismissed m = true :=
      hdue.resolve_right (Call.notMem_due hcall m)
    rcases (isDismissed_dismiss_iff hf).mp hdismissed with hdismissed | rfl
    · exact h.dismissed m f hf hkey (Or.inl hdismissed)
    · rw [← (entryOf_eq_some hn).2, keyOf_of_follower? hf] at hother
      exact absurd hkey hother
  · rw [callOf, hbusy, h.call_eq (by rw [hidle]; rfl), callOf, isBusyWith, hidle]
    rfl
  · rw [keyOf_eq hfollowers]
    exact hreplaced

/-- The task of the key is taken down by both services. -/
theorem takeDown (h : s.Mirrors key t) (hs : s.Orderly) {call call' : Call}
    (hcall : call.isClearing = false)
    (hmirror : call' = (s.takeDown key n call).callOf key)
    (hreplaced : ∀ topic m, call = .replacing topic m → s.keyOf m = topic.displayKey) :
    (s.takeDown key n call).Mirrors key (t.takeDown key (s.rank key n) call') := by
  have hfollowers := s.followers_takeDown key n call
  have hfollower : (s.takeDown key n call).follower? = s.follower? := by
    funext m
    rw [follower?, hfollowers, follower?]
  refine ⟨?_, ?_, fun m f hf hkey hdue => ?_, fun _ => hmirror, ?_,
    fun hclearing => absurd hclearing (ne_true_of_eq_false hcall)⟩
  · rw [hfollowers, followers_takeDown, h.followers_eq]
  · rw [entryOf_takeDown_self, Option.map_none, Option.toList_none]
    refine List.filter_eq_nil_iff.mpr fun m hm => ?_
    obtain ⟨k, f, -, hf, hkey, rfl⟩ := h.mem_entries hs hm
    simpa using h.keyOf_rank hf hkey
  · rw [hfollower] at hf
    rw [rank_eq hfollowers]
    have hdismissed : (s.dismiss n).isDismissed m = true :=
      hdue.resolve_right (Call.notMem_due hcall m)
    change (t.dismiss _).isDismissed _ = true
    rw [isDismissed_dismiss_iff (h.follower?_rank hf hkey)]
    rcases (isDismissed_dismiss_iff hf).mp hdismissed with hdismissed | rfl
    · exact Or.inl (h.dismissed m f hf hkey (Or.inl hdismissed))
    · exact Or.inr rfl
  · rw [keyOf_eq hfollowers]
    exact hreplaced

/-- A task of another key starts. -/
theorem follow_of_ne (h : s.Mirrors key t) (hs : s.Orderly) (hcall : s.call = .connecting topic)
    (hkey : topic.displayKey ≠ key) (url : Option Url) :
    (s.follow topic url).1.Mirrors key t := by
  have hstart := (Follower.start_spec topic s.policy url).2.1
  have hnew : (Follower.start topic s.policy url).1.key ≠ key := by
    rw [Follower.key, hstart]
    exact hkey
  refine ⟨?_, ?_, fun m f hf hfkey hdue => ?_, fun _ => ?_, fun topic n hn => (by cases hn),
    fun hclearing => (by cases hclearing)⟩
  · rw [followers_follow, List.filter_append, h.followers_eq, List.filter_singleton]
    simp [hnew]
  · rw [h.entries_eq, entryOf_follow hs hcall, if_neg hkey]
    cases hn : s.entryOf key with
    | none => rfl
    | some n =>
      have hlt := hs.lt_of_mem_entries (entryOf_eq_some hn).1
      rw [Option.map_some, Option.map_some, rank_follow hlt.le]
  · obtain ⟨hlt, hdismissed⟩ := isDismissed_follow (hdue.resolve_right List.not_mem_nil)
    rw [← length_followers] at hlt
    rcases follower?_follow.mp hf with hf | ⟨rfl, -⟩
    · rw [rank_follow hlt.le]
      exact h.dismissed m f hf hfkey (Or.inl hdismissed)
    · rw [length_followers] at hlt
      exact absurd hlt (Nat.lt_irrefl _)
  · rw [h.call_eq (by rw [hcall]; rfl), callOf, isBusyWith, hcall]
    simp [hkey, callOf, isBusyWith, Service.follow]

/-- A task of the key starts, for both services. -/
theorem follow (h : s.Mirrors key t) (hs : s.Orderly) (hcall : s.call = .connecting topic)
    (hkey : topic.displayKey = key) (hpolicy : t.policy = s.policy) (url : Option Url) :
    (s.follow topic url).1.Mirrors key (t.follow topic url).1 := by
  have hnew : (Follower.start topic s.policy url).1.key = key := by
    rw [Follower.key, (Follower.start_spec topic s.policy url).2.1, hkey]
  have hnone : s.entryOf key = none := by
    refine entryOf_eq_none fun m hm => ?_
    rw [← hkey]
    exact hs.free topic (by rw [hcall]; rfl) m hm
  have hlength : t.tasks.length = (s.followers.filter (·.key = key)).length := by
    rw [← length_followers, h.followers_eq]
  refine ⟨?_, ?_, fun m f hf hfkey hdue => ?_, fun _ => rfl, fun topic n hn => (by cases hn),
    fun hclearing => (by cases hclearing)⟩
  · rw [followers_follow, followers_follow, List.filter_append, h.followers_eq, hpolicy,
      List.filter_singleton]
    simp [hnew]
  · have hentries : t.entries = [] := by
      rw [h.entries_eq, hnone]
      rfl
    rw [entryOf_follow hs hcall, if_pos hkey, Option.map_some, ← length_followers,
      rank_follow (Nat.le_refl _), rank_length, ← hlength]
    change place _ t.tasks.length t.entries = _
    rw [hentries]
    rfl
  · obtain ⟨hlt, hdismissed⟩ := isDismissed_follow (hdue.resolve_right List.not_mem_nil)
    rw [← length_followers] at hlt
    rcases follower?_follow.mp hf with hf | ⟨rfl, -⟩
    · rw [rank_follow hlt.le]
      exact isDismissed_follow_of (h.dismissed m f hf hfkey (Or.inl hdismissed))
    · rw [length_followers] at hlt
      exact absurd hlt (Nat.lt_irrefl _)

/-- A step of a task changes neither keys nor numbers. -/
private theorem numbers_put {task new : Task} (htask : s.tasks[m]? = some task)
    (hkey : new.follower.key = task.follower.key) :
    (s.put m new).keyOf = s.keyOf ∧ (s.put m new).rank = s.rank := by
  have hfollower : s.follower? m = some task.follower := follower?_eq_some.mpr ⟨task, htask, rfl⟩
  constructor
  · funext n
    rw [keyOf, follower?_put htask]
    split
    · rename_i hmn
      rw [← hmn, keyOf_of_follower? hfollower]
      exact hkey
    · rfl
  · funext key n
    rw [rank, rank, followers_put]
    exact countP_take_set hfollower (by rw [hkey])

/-- A step of a task leaves the keys of all tasks. -/
private theorem exists_follower?_put {task new : Task} (htask : s.tasks[m]? = some task)
    (hkey : new.follower.key = task.follower.key) {n : Nat} {f : Follower} :
    ((s.put m new).follower? n = some f → ∃ g, s.follower? n = some g ∧ g.key = f.key) ∧
      (s.follower? n = some f → ∃ g, (s.put m new).follower? n = some g ∧ g.key = f.key) := by
  have hfollower : s.follower? m = some task.follower := follower?_eq_some.mpr ⟨task, htask, rfl⟩
  rw [follower?_put htask]
  by_cases hmn : m = n
  · subst hmn
    rw [if_pos rfl, hfollower]
    refine ⟨fun hf => ⟨task.follower, rfl, ?_⟩, fun hf => ⟨new.follower, rfl, ?_⟩⟩
    · rw [← Option.some.inj hf, hkey]
    · rw [← Option.some.inj hf, hkey]
  · rw [if_neg hmn]
    exact ⟨fun hf => ⟨f, hf, rfl⟩, fun hf => ⟨f, hf, rfl⟩⟩

/-- A task makes a step, and the service of one key has what of its followers is seen then. -/
private theorem of_put (h : s.Mirrors key t) {task new : Task} (htask : s.tasks[m]? = some task)
    (hkey : new.follower.key = task.follower.key) (hdismissed : new.dismissed = task.dismissed)
    (hfollowers : t'.followers = (s.put m new).followers.filter (·.key = key))
    (hentries : t'.entries = t.entries) (hcall : t'.call = t.call)
    (hkept : ∀ n, t.isDismissed n = true → t'.isDismissed n = true) :
    (s.put m new).Mirrors key t' := by
  obtain ⟨hkeyOf, hrank⟩ := numbers_put htask hkey
  refine ⟨hfollowers, ?_, fun n f hf hfkey hdue => ?_, fun hnot => ?_, ?_, fun hclearing => ?_⟩
  · rw [hentries, entryOf, hkeyOf, hrank]
    exact h.entries_eq
  · obtain ⟨g, hg, hgkey⟩ := (exists_follower?_put htask hkey).1 hf
    rw [isDismissed_put htask hdismissed] at hdue
    rw [hrank]
    exact hkept _ (h.dismissed n g hg (hgkey.trans hfkey) hdue)
  · refine hcall.trans ((h.call_eq hnot).trans ?_)
    rw [callOf, callOf, isBusyWith, isBusyWith, hkeyOf, hrank]
    rfl
  · rw [hkeyOf]
    exact h.replaced
  · rw [hrank, hcall]
    obtain ⟨hnone, hidle | ⟨n, f, hf, hfkey, hdone⟩⟩ := h.clearing hclearing
    · exact ⟨hnone, Or.inl hidle⟩
    · obtain ⟨g, hg, hgkey⟩ := (exists_follower?_put htask hkey).2 hf
      exact ⟨hnone, Or.inr ⟨n, g, hg, hgkey.trans hfkey, hdone⟩⟩

/-- A task of another key makes a step. -/
theorem put_of_ne (h : s.Mirrors key t) {task new : Task} (htask : s.tasks[m]? = some task)
    (hkey : new.follower.key = task.follower.key) (hdismissed : new.dismissed = task.dismissed)
    (hne : task.follower.key ≠ key) : (s.put m new).Mirrors key t := by
  have hfollower : s.follower? m = some task.follower := follower?_eq_some.mpr ⟨task, htask, rfl⟩
  refine h.of_put htask hkey hdismissed ?_ rfl rfl fun _ hn => hn
  rw [h.followers_eq, followers_put]
  exact (filter_set_of_neg hfollower (decide_eq_false hne) (decide_eq_false (hkey ▸ hne))).symm

/-- A task of the key makes a step, for both services. -/
theorem put (h : s.Mirrors key t) {task new own new' : Task} (htask : s.tasks[m]? = some task)
    (hkey : new.follower.key = task.follower.key) (hdismissed : new.dismissed = task.dismissed)
    (hown : t.tasks[s.rank key m]? = some own) (hnew : new'.follower = new.follower)
    (hsame : new'.dismissed = own.dismissed) (heq : task.follower.key = key) :
    (s.put m new).Mirrors key (t.put (s.rank key m) new') := by
  have hfollower : s.follower? m = some task.follower := follower?_eq_some.mpr ⟨task, htask, rfl⟩
  refine h.of_put htask hkey hdismissed ?_ rfl rfl fun n hn => ?_
  · rw [followers_put, followers_put, h.followers_eq, hnew]
    exact (filter_set hfollower (decide_eq_true heq) (decide_eq_true (hkey.trans heq))).symm
  · rw [isDismissed_put hown hsame]
    exact hn

/-- All tasks are being torn down, and the service of one key has torn its own down or has none. -/
private theorem of_clearing (h : s.Mirrors key t) (hs : s'.followers = s.followers)
    (ht : t'.followers = t.followers) (hcall : s'.call.isClearing = true)
    (hentries : s'.entries = []) (hnone : t'.entries = [])
    (hdismissed : ∀ n f, s.follower? n = some f → f.key = key →
      s'.isDismissed n = true ∨ n ∈ s'.call.due → t'.isDismissed (s.rank key n) = true)
    (hdone : t'.call = .idle ∨
      ∃ n f, s.follower? n = some f ∧ f.key = key ∧ t'.call = .clearing (s.rank key n) []) :
    s'.Mirrors key t' := by
  have hfollower : s'.follower? = s.follower? := by
    funext n
    rw [follower?, hs, follower?]
  refine ⟨?_, ?_, ?_, fun hnot => ?_, fun topic n hn => ?_, fun _ => ⟨hentries, ?_⟩⟩
  · rw [ht, hs, h.followers_eq]
  · rw [hnone, entryOf_eq_none]
    · rfl
    · rw [hentries]
      simp
  · rw [hfollower, rank_eq hs]
    exact hdismissed
  · rw [hcall] at hnot
    cases hnot
  · rw [hn] at hcall
    cases hcall
  · rw [hfollower, rank_eq hs]
    exact hdone

theorem entries_eq_nil (h : s.Mirrors key t) (hnone : s.entryOf key = none) : t.entries = [] := by
  rw [h.entries_eq, hnone]
  rfl

/-- All tasks are to be torn down, and the key has none. -/
theorem shutdown_of_none (h : s.Mirrors key t) (hidle : s.call = .idle)
    (hnone : s.entryOf key = none) {rest : List Nat} (horder : (n :: rest).Perm s.entries) :
    (({ s with entries := [] } : Service).clear (n :: rest)).1.Mirrors key t := by
  refine h.of_clearing (followers_clear _ _) rfl rfl (entries_clear _ _) (h.entries_eq_nil hnone)
    (fun m f hf hkey hdue => ?_) (Or.inl ?_)
  · have hfree : m ∉ n :: rest := by
      intro hm
      refine keyOf_ne_of_entryOf hnone m (horder.mem_iff.mp hm) ?_
      rw [keyOf_of_follower? hf, hkey]
    rcases hdue with hdismissed | hdue
    · rcases (isDismissed_dismiss_iff (s := { s with entries := [] }) hf).mp hdismissed with
        hdismissed | rfl
      · exact h.dismissed m f hf hkey (Or.inl hdismissed)
      · exact absurd List.mem_cons_self hfree
    · exact absurd (List.mem_cons_of_mem _ hdue) hfree
  · rw [h.call_eq (by rw [hidle]; rfl), callOf, isBusyWith, hidle]
    rfl

/-- All tasks are to be torn down, that of the key among them. -/
theorem shutdown (h : s.Mirrors key t) (hs : s.Orderly) {k : Nat} (hk : s.entryOf key = some k)
    {rest : List Nat} (horder : (n :: rest).Perm s.entries) :
    (({ s with entries := [] } : Service).clear (n :: rest)).1.Mirrors key
      (({ t with entries := [] } : Service).clear [s.rank key k]).1 := by
  obtain ⟨hmem, hkkey⟩ := entryOf_eq_some hk
  obtain ⟨g, hg⟩ := exists_follower? (hs.lt_of_mem_entries hmem)
  have hgkey : g.key = key := (keyOf_of_follower? hg).symm.trans hkkey
  refine h.of_clearing (followers_clear _ _) (followers_clear _ _) rfl (entries_clear _ _)
    (entries_clear _ _) (fun m f hf hkey hdue => ?_) (Or.inr ⟨k, g, hg, hgkey, rfl⟩)
  refine (isDismissed_dismiss_iff (s := { t with entries := [] }) (h.follower?_rank hf hkey)).mpr ?_
  -- The entry of the key is the only task of the key that is torn down.
  have hentry (hm : m ∈ n :: rest) : m = k := by
    refine hs.eq_of_key m (List.mem_append_left _ (horder.mem_iff.mp hm)) k
      (List.mem_append_left _ hmem) ?_
    rw [keyOf_of_follower? hf, hkey, hkkey]
  rcases hdue with hdismissed | hdue
  · rcases (isDismissed_dismiss_iff (s := { s with entries := [] }) hf).mp hdismissed with
      hdismissed | rfl
    · exact Or.inl (h.dismissed m f hf hkey (Or.inl hdismissed))
    · exact Or.inr (by rw [hentry List.mem_cons_self])
  · exact Or.inr (by rw [hentry (List.mem_cons_of_mem _ hdue)])

/-- The next task is torn down, which the service of one key has done before if it is of the key. -/
theorem clear_cons (h : s.Mirrors key t) {rest : List Nat}
    (hcall : s.call = .clearing n (m :: rest)) : (s.clear (m :: rest)).1.Mirrors key t := by
  obtain ⟨hentries, hdone⟩ := h.clearing (by rw [hcall]; rfl)
  have hnone : s.entryOf key = none := entryOf_eq_none (by rw [hentries]; simp)
  refine h.of_clearing (followers_clear _ _) rfl rfl ((entries_clear _ _).trans hentries)
    (h.entries_eq_nil hnone) (fun l f hf hkey hdue => h.dismissed l f hf hkey ?_) hdone
  rw [hcall]
  rcases hdue with hdismissed | hdue
  · rcases (isDismissed_dismiss_iff hf).mp hdismissed with hdismissed | rfl
    · exact Or.inl hdismissed
    · exact Or.inr List.mem_cons_self
  · exact Or.inr (List.mem_cons_of_mem _ hdue)

end Mirrors

end Service

end FeedRelay.Feed
