import FeedRelay.Proofs.Feed.Service

/-!
# One live subscription for each key

A service holds the tasks of its entries and those that its present call waits for, and no two of
them have the same key. A task that it does not hold is over, and stays so. Hence, at every moment
of every run, at most one task of a key is not over, and at most one connection of a key is open;
a task that starts finds all earlier ones of its key over, so what these told the handler comes
first (`Service.one_live_subscription`).
-/

namespace FeedRelay.Feed

/-- A task whose follower is sound and which gave up no connection before it closed. -/
structure Task.Sound (t : Task) : Prop where
  follower : t.follower.Sound
  closed : ∀ c ∈ t.spent, c.state = .closed

/-- Whether a connection may still bring something. -/
def Subscription.isOpen (c : Subscription) : Bool :=
  c.state ≠ .closed

/-- The number of the task that made a report, if it told the handler of a key. -/
def Report.teller? (key : String) : Report → Option Nat
  | .told n topic _ => if topic.displayKey = key then some n else none
  | .returned _ => none

/-- The tasks that told the handler of a key, once for each time that they did. -/
def tellers (key : String) (reports : List Report) : List Nat :=
  reports.filterMap (Report.teller? key)

namespace Follower

variable {f g : Follower} {occurrence : Occurrence} {actions : List Action}

theorem connection_of_isOver (hf : f.Sound) (h : f.isOver = true) : f.connection = none := by
  refine hf.connection_eq_none ?_
  unfold isOver at h
  unfold Pump.isDriving
  cases hphase : f.pump.phase with
  | driving closing =>
    rw [hphase] at h
    cases h
  | _ => rfl

/-- A follower gives up its connection only after the reader has closed. -/
theorem closed_of_given_up (hf : f.Sound) (h : f.step occurrence = some (g, actions))
    {c : Subscription} (hc : f.connection = some c) (hg : g.connection = none) :
    c.state = .closed := by
  obtain ⟨events, hchange, -⟩ := (hf.step_spec h).change
  rw [hc, hg] at hchange
  cases hchange with
  | last _ he =>
    obtain ⟨told, taken, hconsumed⟩ := hf.consumed c hc
    exact (hconsumed.of_closed_next he).2.2

end Follower

namespace Task

variable {t : Task} {g : Follower} {occurrence : Occurrence} {actions : List Action}

theorem Sound.goOn (ht : t.Sound) (h : t.follower.step occurrence = some (g, actions)) :
    (t.goOn g).Sound where
  follower := (ht.follower.step_spec h).sound
  closed c hc := by
    unfold Task.goOn at hc
    split at hc
    · rename_i hg
      rcases List.mem_append.mp hc with hc | hc
      · exact ht.closed c hc
      · exact Follower.closed_of_given_up ht.follower h (Option.mem_toList.mp hc)
          (Option.isNone_iff_eq_none.mp hg)
    · exact ht.closed c hc

/-- A task has one open connection at most, and none once it is over. -/
theorem Sound.countP_isOpen_le (ht : t.Sound) :
    t.connections.countP Subscription.isOpen ≤ if t.follower.isOver then 0 else 1 := by
  have hspent : t.spent.countP Subscription.isOpen = 0 := by
    rw [List.countP_eq_zero]
    intro c hc
    simp [Subscription.isOpen, ht.closed c hc]
  rw [connections, List.countP_append, hspent, Nat.zero_add]
  cases hover : t.follower.isOver with
  | true =>
    rw [Follower.connection_of_isOver ht.follower hover]
    exact Nat.le_refl 0
  | false =>
    refine Nat.le_trans List.countP_le_length ?_
    cases t.follower.connection <;> simp

end Task

namespace Service

/-- The tasks of a key. -/
def tasksOf (s : Service) (key : String) : List Task :=
  s.tasks.filter (·.follower.key = key)

/-- A service whose tasks agree: those that it holds have different keys, those that it does not
hold are over, no entry has the key of a topic to come, and of the tasks of one key all but the last
are over. -/
structure Orderly (s : Service) : Prop where
  lt_length : ∀ n ∈ s.held, n < s.followers.length
  eq_of_key : ∀ m ∈ s.held, ∀ n ∈ s.held, s.keyOf m = s.keyOf n → m = n
  held_of_running : ∀ n f, s.follower? n = some f → f.isOver = false → n ∈ s.held
  free : ∀ topic, s.call.topic? = some topic → ∀ n ∈ s.entries, s.keyOf n ≠ topic.displayKey
  over_of_lt : ∀ m n f g, m < n → s.follower? m = some f → s.follower? n = some g →
    f.key = g.key → f.isOver = true
  sound : ∀ (n : Nat) (task : Task), s.tasks[n]? = some task → task.Sound

variable {s t : Service} {reports : List Report}

theorem follower?_eq_some {n : Nat} {f : Follower} :
    s.follower? n = some f ↔ ∃ task, s.tasks[n]? = some task ∧ task.follower = f := by
  rw [follower?, followers, List.getElem?_map, Option.map_eq_some_iff]

/-- A follower has closed if it is over and its counter of attempts was not used up. -/
theorem Orderly.closed_iff (hs : s.Orderly) {n : Nat} {f : Follower} (hf : s.follower? n = some f) :
    f.state = .closed ↔ f.isOver = true ∧ f.pump.phase ≠ .stuck := by
  obtain ⟨task, htask, rfl⟩ := follower?_eq_some.mp hf
  rw [(hs.sound n task htask).follower.state_eq, Follower.isOver]
  cases task.follower.pump.phase <;> simp [Phase.status, Phase.isOver]

theorem orderly_start (base : Url) (policy : ReconnectPolicy) : (start base policy).Orderly where
  lt_length n hn := by cases hn
  eq_of_key m hm := by cases hm
  held_of_running n f hf := by cases hf
  free topic h := by cases h
  over_of_lt m n f g _ hf := by cases hf
  sound n task h := by cases h

namespace Orderly

/-- A task that sees that it has to stop is as sound as before. -/
theorem sound_dismiss (hs : s.Orderly) (m n : Nat) {task : Task}
    (h : (s.dismiss m).tasks[n]? = some task) : task.Sound := by
  rw [dismiss, List.getElem?_modify] at h
  obtain ⟨old, hold, rfl⟩ := Option.map_eq_some_iff.mp h
  have hsound := hs.sound n old hold
  split
  · exact ⟨hsound.follower, hsound.closed⟩
  · exact hsound

/-- A service may hold fewer of its tasks, if the others are over. -/
theorem rearrange (hs : s.Orderly) (hfollowers : t.followers = s.followers)
    (hsub : ∀ n ∈ t.held, n ∈ s.held)
    (hkeep : ∀ n ∈ s.held, n ∈ t.held ∨ s.isOver n = true)
    (hfree : ∀ topic, t.call.topic? = some topic → ∀ n ∈ t.entries,
      t.keyOf n ≠ topic.displayKey)
    (hsound : ∀ (n : Nat) (task : Task), t.tasks[n]? = some task → task.Sound) : t.Orderly where
  lt_length n hn := by
    rw [hfollowers]
    exact hs.lt_length n (hsub n hn)
  eq_of_key m hm n hn hkey := by
    rw [keyOf_eq hfollowers] at hkey
    exact hs.eq_of_key m (hsub m hm) n (hsub n hn) hkey
  held_of_running n f hf hrunning := by
    rw [follower?, hfollowers] at hf
    refine (hkeep n (hs.held_of_running n f hf hrunning)).resolve_right fun hover => ?_
    rw [isOver, follower?, hf, Option.any_some, hrunning] at hover
    cases hover
  free := hfree
  over_of_lt m n f g hlt hf hg := by
    rw [follower?, hfollowers] at hf hg
    exact hs.over_of_lt m n f g hlt hf hg
  sound := hsound

/-- The entry of a key is the only task of the key that is held, so it can be taken away. -/
theorem takeDown (hs : s.Orderly) {key : String} {n : Nat} (hn : s.entryOf key = some n)
    {call : Call} (hidle : s.call.awaited = []) (hcall : call.awaited = [n])
    (htopic : ∀ topic, call.topic? = some topic → topic.displayKey = key) :
    (s.takeDown key n call).Orderly := by
  obtain ⟨hmem, hkey⟩ := entryOf_eq_some hn
  have hheld : n ∈ s.held := List.mem_append_left _ hmem
  refine hs.rearrange (s.followers_takeDown key n call) ?_ ?_ ?_ ?_
  · intro m hm
    rcases List.mem_append.mp hm with hm | hm
    · exact List.mem_append_left _ (mem_entries_takeDown.mp hm).1
    · obtain rfl : m = n := List.mem_singleton.mp (hcall ▸ hm)
      exact hheld
  · intro m hm
    refine Or.inl ?_
    by_cases hmkey : s.keyOf m = key
    · obtain rfl := hs.eq_of_key m hm n hheld (hmkey.trans hkey.symm)
      refine List.mem_append_right _ ?_
      exact hcall ▸ List.mem_singleton_self m
    · rw [held, hidle, List.append_nil] at hm
      exact List.mem_append_left _ (mem_entries_takeDown.mpr ⟨hm, hmkey⟩)
  · intro topic ht m hm
    rw [htopic topic ht, keyOf_eq (s.followers_takeDown key n call)]
    exact (mem_entries_takeDown.mp hm).2
  · intro m task htask
    exact (hs.sound_dismiss n m htask : task.Sound)

/-- The tasks of a free key are over. -/
theorem isOver_of_free (hs : s.Orderly) {key : String} (hidle : s.call.awaited = [])
    (hfree : ∀ n ∈ s.entries, s.keyOf n ≠ key) {n : Nat} {f : Follower}
    (hf : s.follower? n = some f) (hkey : f.key = key) : f.isOver = true := by
  cases hover : f.isOver with
  | true => rfl
  | false =>
    have hmem := hs.held_of_running n f hf hover
    rw [held, hidle, List.append_nil] at hmem
    exact absurd ((keyOf_of_follower? hf).trans hkey) (hfree n hmem)

/-- A task starts only when no task of its key runs. -/
theorem follow (hs : s.Orderly) {topic : Topic} (hidle : s.call.awaited = [])
    (hfree : ∀ n ∈ s.entries, s.keyOf n ≠ topic.displayKey) (url : Option Url) :
    (s.follow topic url).1.Orderly := by
  obtain ⟨hsound, htopic, -, -⟩ := Follower.start_spec topic s.policy url
  have hkey : (Follower.start topic s.policy url).1.key = topic.displayKey := by
    rw [Follower.key, htopic]
  have hnew : (s.follow topic url).1.keyOf s.tasks.length = topic.displayKey :=
    (keyOf_of_follower? (follower?_follow.mpr (Or.inr ⟨rfl, rfl⟩))).trans hkey
  have hlt : ∀ n ∈ s.entries, n < s.followers.length := fun n hn =>
    hs.lt_length n (List.mem_append_left _ hn)
  have hold : ∀ n ∈ s.entries, (s.follow topic url).1.keyOf n = s.keyOf n := by
    intro n hn
    obtain ⟨f, hf⟩ := exists_follower? (hlt n hn)
    rw [keyOf_of_follower? hf, keyOf_of_follower? (follower?_follow.mpr (Or.inl hf))]
  have hheld : ∀ n ∈ (s.follow topic url).1.held, n = s.tasks.length ∨ n ∈ s.entries := by
    intro n hn
    rw [held, List.mem_append] at hn
    exact mem_place (hn.resolve_right fun h => by cases h)
  refine ⟨?_, ?_, ?_, ?_, ?_, ?_⟩
  · intro n hn
    rw [followers_follow, List.length_append, List.length_singleton]
    rcases hheld n hn with rfl | hn
    · rw [length_followers]
      exact Nat.lt_succ_self _
    · exact Nat.lt_succ_of_lt (hlt n hn)
  · intro m hm n hn hmn
    rcases hheld m hm with rfl | hm <;> rcases hheld n hn with rfl | hn
    · rfl
    · rw [hnew, hold n hn] at hmn
      exact absurd hmn.symm (hfree n hn)
    · rw [hnew, hold m hm] at hmn
      exact absurd hmn (hfree m hm)
    · rw [hold m hm, hold n hn] at hmn
      exact hs.eq_of_key m (List.mem_append_left _ hm) n (List.mem_append_left _ hn) hmn
  · intro n f hf hrunning
    refine List.mem_append_left _ (mem_place_of ?_)
    rcases follower?_follow.mp hf with hf | ⟨rfl, -⟩
    · have hmem := hs.held_of_running n f hf hrunning
      rw [held, hidle, List.append_nil] at hmem
      refine Or.inr ⟨hmem, fun hne => hfree n hmem ?_⟩
      exact (hold n hmem).symm.trans (hne.symm.trans hnew)
    · exact Or.inl rfl
  · intro topic htopic
    cases htopic
  · intro m n f g hmn hf hg hfg
    rcases follower?_follow.mp hg with hg | ⟨rfl, rfl⟩
    · have hlen : n < s.tasks.length := by
        rw [← length_followers]
        exact (List.getElem?_eq_some_iff.mp hg).1
      rcases follower?_follow.mp hf with hf | ⟨rfl, -⟩
      · exact hs.over_of_lt m n f g hmn hf hg hfg
      · exact absurd hmn (Nat.not_lt_of_lt hlen)
    · rcases follower?_follow.mp hf with hf | ⟨rfl, -⟩
      · exact hs.isOver_of_free hidle hfree hf (hfg.trans hkey)
      · exact absurd hmn (Nat.lt_irrefl _)
  · intro n task htask
    rcases getElem?_concat_eq_some.mp htask with htask | ⟨-, rfl⟩
    · exact hs.sound n task htask
    · exact ⟨hsound, fun c hc => by cases hc⟩

/-- What happens to a task changes no key, and only a task that runs makes a step. -/
theorem put (hs : s.Orderly) {n : Nat} {task new : Task} (htask : s.tasks[n]? = some task)
    (hkey : new.follower.key = task.follower.key) (hover : task.follower.isOver = false)
    (hnew : new.Sound) : (s.put n new).Orderly := by
  have hfollower : s.follower? n = some task.follower := follower?_eq_some.mpr ⟨task, htask, rfl⟩
  have hkeyOf : (s.put n new).keyOf = s.keyOf := by
    funext m
    rw [keyOf, follower?_put htask]
    split
    · rename_i h
      rw [← h, keyOf_of_follower? hfollower]
      exact hkey
    · rfl
  have hlength : (s.put n new).followers.length = s.followers.length := by
    rw [length_followers, length_followers]
    exact List.length_set
  refine ⟨?_, ?_, ?_, ?_, ?_, ?_⟩
  · rw [hlength]
    exact hs.lt_length
  · rw [hkeyOf]
    exact hs.eq_of_key
  · intro m f hf hrunning
    rw [follower?_put htask] at hf
    split at hf
    · rename_i h
      exact h ▸ hs.held_of_running n task.follower hfollower hover
    · exact hs.held_of_running m f hf hrunning
  · rw [hkeyOf]
    exact hs.free
  · intro l m f g hlm hf hg hfg
    rw [follower?_put htask] at hf hg
    -- The task that changes was running, so no later task has its key.
    split at hf
    · rename_i h
      subst h
      cases hf
      rw [if_neg (Nat.ne_of_lt hlm)] at hg
      have := hs.over_of_lt n m _ g hlm hfollower hg (hkey.symm.trans hfg)
      rw [hover] at this
      cases this
    · split at hg
      · rename_i h
        subst h
        cases hg
        exact hs.over_of_lt l n f _ hlm hf hfollower (hfg.trans hkey)
      · exact hs.over_of_lt l m f g hlm hf hg hfg
  · intro m other hother
    rcases getElem?_set_eq_some hother with ⟨-, rfl⟩ | ⟨-, hother⟩
    · exact hnew
    · exact hs.sound m other hother

/-- A call that follows no topic may wait for other tasks, if the service holds those that run. -/
theorem clear (hs : s.Orderly) {entries order : List Nat}
    (hsub : ∀ n ∈ entries ++ order, n ∈ s.held)
    (hkeep : ∀ n ∈ s.held, n ∈ entries ++ order ∨ s.isOver n = true) :
    (({ s with entries } : Service).clear order).1.Orderly := by
  cases order with
  | nil => exact hs.rearrange rfl hsub hkeep (fun topic h => by cases h) hs.sound
  | cons n rest =>
    exact hs.rearrange (followers_dismiss { s with entries } n) hsub hkeep
      (fun topic h => by cases h) fun m task htask => hs.sound_dismiss n m htask

/-- Only the call of a service changes, and it does not wait. -/
theorem call (hs : s.Orderly) {call : Call} (hcall : call.awaited = [])
    (hkeep : ∀ n ∈ s.call.awaited, s.isOver n = true)
    (hfree : ∀ topic, call.topic? = some topic → ∀ n ∈ s.entries, s.keyOf n ≠ topic.displayKey) :
    ({ s with call } : Service).Orderly := by
  refine hs.rearrange rfl ?_ ?_ hfree hs.sound
  · intro n hn
    rw [held, hcall, List.append_nil] at hn
    exact List.mem_append_left _ hn
  · intro n hn
    rw [held, hcall, List.append_nil]
    exact (List.mem_append.mp hn).imp_right (hkeep n)

/-- What a move leads to is orderly. -/
theorem step (hs : s.Orderly) {move : Move} (h : machine s move = some (t, reports)) :
    t.Orderly := by
  cases change_of_machine h with
  | refuse => exact hs
  | replace hmove hidle hlive hn =>
    refine hs.takeDown hn hidle rfl ?_
    rintro _ ⟨⟩
    rfl
  | reach hmove hidle hlive hn =>
    refine hs.call rfl (by rw [hidle]; simp) ?_
    rintro _ ⟨⟩
    exact keyOf_ne_of_entryOf hn
  | answer => exact hs
  | leave hidle hn => exact hs.takeDown hn hidle rfl fun topic h => by cases h
  | shutdown hidle horder =>
    have hheld : s.held = s.entries := by
      rw [held, hidle, List.append_nil]
    refine hs.clear ?_ ?_
    · intro n hn
      rw [hheld]
      exact horder.mem_iff.mp hn
    · intro n hn
      rw [hheld] at hn
      exact Or.inl (horder.mem_iff.mpr hn)
  | @proceed topic n hcall hover =>
    refine hs.call rfl ?_ ?_
    · rw [hcall]
      simpa [Call.awaited] using hover
    · rintro _ ⟨⟩
      exact hs.free topic (by rw [hcall]; rfl)
  | dropped hcall hover =>
    refine hs.call rfl ?_ fun topic h => by cases h
    rw [hcall]
    simpa [Call.awaited] using hover
  | @clear n rest hcall hover =>
    refine (hs.clear ?_ ?_ : (s.clear rest).1.Orderly)
    · intro m hm
      rw [held, hcall]
      rcases List.mem_append.mp hm with hm | hm
      · exact List.mem_append_left _ hm
      · exact List.mem_append_right _ (List.mem_cons_of_mem _ hm)
    · intro m hm
      rw [held, hcall] at hm
      rcases List.mem_append.mp hm with hm | hm
      · exact Or.inl (List.mem_append_left _ hm)
      · rcases List.mem_cons.mp hm with rfl | hm
        · exact Or.inr hover
        · exact Or.inl (List.mem_append_right _ hm)
  | @follow network topic url hcall =>
    exact hs.follow (by rw [hcall]; rfl) (hs.free topic (by rw [hcall]; rfl)) url
  | fail hcall => exact hs.call rfl (by rw [hcall]; simp [Call.awaited]) fun topic h => by cases h
  | occur htask hhears hstep =>
    have hsound := hs.sound _ _ htask
    have hspec := hsound.follower.step_spec hstep
    exact hs.put htask (congrArg Topic.displayKey hspec.topic_eq) hspec.isOver_eq
      (hsound.goOn hstep)

/-- No move loses a task or changes its topic. -/
theorem exists_topic_eq (hs : s.Orderly) {move : Move} (h : machine s move = some (t, reports))
    {n : Nat} {f : Follower} (hf : s.follower? n = some f) :
    ∃ g, t.follower? n = some g ∧ g.topic = f.topic := by
  have hsame (hfollowers : t.followers = s.followers) :
      ∃ g, t.follower? n = some g ∧ g.topic = f.topic := by
    refine ⟨f, ?_, rfl⟩
    rw [follower?, hfollowers]
    exact hf
  cases change_of_machine h with
  | refuse | answer | reach | proceed | dropped | fail => exact ⟨f, hf, rfl⟩
  | replace | leave => exact hsame (s.followers_takeDown _ _ _)
  | shutdown | clear => exact hsame (followers_clear _ _)
  | follow url hcall => exact ⟨f, follower?_follow.mpr (Or.inl hf), rfl⟩
  | @occur m occurrence task g actions htask hhears hstep =>
    rw [follower?_put htask]
    split
    · rename_i hm
      subst hm
      obtain rfl : task.follower = f :=
        Option.some.inj ((follower?_eq_some.mpr ⟨task, htask, rfl⟩).symm.trans hf)
      exact ⟨g, rfl, ((hs.sound m task htask).follower.step_spec hstep).topic_eq⟩
    · exact ⟨f, hf, rfl⟩

/-- A move returns from a call, or a task that runs tells the handler of its topic. -/
theorem reports_cases (hs : s.Orderly) {move : Move}
    (h : machine s move = some (t, reports)) :
    (∀ report ∈ reports, ∃ outcome, report = .returned outcome) ∨
      ∃ n f, s.follower? n = some f ∧ f.isOver = false ∧
        ∀ report ∈ reports, ∃ event, report = .told n f.topic event := by
  cases change_of_machine h with
  | refuse | answer | reach | proceed | dropped | fail | replace | leave =>
    refine Or.inl fun report hr => ?_
    simp_all
  | @shutdown order hidle horder =>
    refine Or.inl fun report hr => ?_
    cases order <;> simp_all [Service.clear]
  | @clear n rest hcall hover =>
    refine Or.inl fun report hr => ?_
    cases rest <;> simp_all [Service.clear]
  | @follow network topic url hcall =>
    refine Or.inl fun report hr => ?_
    rw [reports_follow] at hr
    exact ⟨_, List.mem_singleton.mp hr⟩
  | @occur n occurrence task g actions htask hhears hstep =>
    have hspec := (hs.sound n task htask).follower.step_spec hstep
    obtain ⟨events, -, hevents⟩ := hspec.change
    refine Or.inr ⟨n, task.follower, follower?_eq_some.mpr ⟨task, htask, rfl⟩, hspec.isOver_eq,
      fun report hr => ?_⟩
    rw [hevents, List.map_map] at hr
    obtain ⟨event, -, rfl⟩ := List.mem_map.mp hr
    exact ⟨event, rfl⟩

/-- A key is live if and only if it has an entry that has not closed. -/
theorem isLive_iff (hs : s.Orderly) {key : String} :
    s.roster.isLive key = true ↔
      ∃ n ∈ s.entries, ∃ f, s.follower? n = some f ∧ f.key = key ∧ f.state ≠ .closed := by
  constructor
  · intro h
    obtain ⟨state, hstate, hne⟩ := (Option.any_eq_true _ _).mp h
    obtain ⟨f, hf, rfl⟩ := Option.map_eq_some_iff.mp hstate
    obtain ⟨n, hn, hnf⟩ := List.mem_filterMap.mp (List.mem_of_find?_eq_some hf)
    exact ⟨n, hn, f, hnf, by simpa using List.find?_some hf, by simpa using hne⟩
  · rintro ⟨n, hn, f, hf, hkey, hne⟩
    -- The follower that is found has the same key, so it is the same.
    have hfound : s.roster.find? key = some f := by
      cases hfind : s.roster.find? key with
      | none =>
        have hmem : f ∈ s.roster.followers := List.mem_filterMap.mpr ⟨n, hn, hf⟩
        exact absurd hkey (by simpa using List.find?_eq_none.mp hfind f hmem)
      | some g =>
        obtain ⟨m, hm, hmg⟩ := List.mem_filterMap.mp (List.mem_of_find?_eq_some hfind)
        have hgkey : g.key = key := by simpa using List.find?_some hfind
        have hmn : m = n := by
          refine hs.eq_of_key m (List.mem_append_left _ hm) n (List.mem_append_left _ hn) ?_
          rw [keyOf_of_follower? hmg, keyOf_of_follower? hf, hgkey, hkey]
        rw [← hmg, hmn, hf]
    rw [Roster.isLive, Roster.state?, hfound]
    simpa using hne

/-- A move is refused because its key is followed if and only if it asks for a key that has an
entry that has not closed. -/
theorem refusal_mem_iff (hs : s.Orderly) {move : Move} (h : machine s move = some (t, reports))
    (key : String) :
    .returned (.subscribed (.error (.alreadySubscribed key))) ∈ reports ↔
      (∃ topic, move.topic? = some topic ∧ topic.displayKey = key) ∧
        ∃ n ∈ s.entries, ∃ f, s.follower? n = some f ∧ f.key = key ∧ f.state ≠ .closed := by
  rw [← hs.isLive_iff]
  have hasked {topic : Topic} (hmove : move.topic? = some topic)
      (hlive : s.roster.isLive topic.displayKey = false) :
      ¬((∃ topic, move.topic? = some topic ∧ topic.displayKey = key) ∧
        s.roster.isLive key = true) := by
    rintro ⟨⟨other, hother, rfl⟩, hkey⟩
    rw [hmove] at hother
    obtain rfl := Option.some.inj hother
    rw [hlive] at hkey
    cases hkey
  have hnone (hmove : move.topic? = none) :
      ¬((∃ topic, move.topic? = some topic ∧ topic.displayKey = key) ∧
        s.roster.isLive key = true) := by
    rintro ⟨⟨topic, htopic, -⟩, -⟩
    rw [hmove] at htopic
    cases htopic
  cases change_of_machine h with
  | @refuse move topic hmove hlive =>
    rw [List.mem_singleton]
    constructor
    · intro h
      cases h
      exact ⟨⟨topic, hmove, rfl⟩, hlive⟩
    · rintro ⟨⟨other, hother, rfl⟩, -⟩
      rw [hmove] at hother
      obtain rfl := Option.some.inj hother
      rfl
  | replace hmove hidle hlive => exact iff_of_false (by simp) (hasked hmove hlive)
  | reach hmove hidle hlive => exact iff_of_false (by simp) (hasked hmove hlive)
  | answer hmove houtcome =>
    refine iff_of_false (fun h => ?_) (hnone hmove)
    exact houtcome key (Report.returned.inj (List.mem_singleton.mp h)).symm
  | leave | proceed | dropped => exact iff_of_false (by simp) (hnone rfl)
  | @shutdown order =>
    refine iff_of_false ?_ (hnone rfl)
    cases order <;> simp [Service.clear]
  | @clear n rest =>
    refine iff_of_false ?_ (hnone rfl)
    cases rest <;> simp [Service.clear]
  | follow => exact iff_of_false (by simp [reports_follow]) (hnone rfl)
  | fail hcall hfailure =>
    refine iff_of_false (fun h => ?_) (hnone rfl)
    have heq := List.mem_singleton.mp h
    simp only [Report.returned.injEq, Outcome.subscribed.injEq, Except.error.injEq] at heq
    exact hfailure key heq.symm
  | occur => exact iff_of_false (by simp) (hnone rfl)

/-- A task that runs is the last of its key. -/
theorem le_of_running (hs : s.Orderly) {m n : Nat} {f g : Follower} (hf : s.follower? m = some f)
    (hg : s.follower? n = some g) (hkey : f.key = g.key) (hrunning : g.isOver = false) : m ≤ n := by
  refine Nat.le_of_not_lt fun hlt => ?_
  rw [hs.over_of_lt n m g f hlt hg hf hkey.symm] at hrunning
  cases hrunning

/-- Of the tasks of a key at most one runs. -/
theorem countP_running_le (hs : s.Orderly) (key : String) :
    (s.tasksOf key).countP (!·.follower.isOver) ≤ 1 := by
  have hpairwise : s.tasks.Pairwise fun a b =>
      a.follower.key = b.follower.key → a.follower.isOver = true := by
    rw [List.pairwise_iff_getElem]
    intro m n hm hn hmn
    exact hs.over_of_lt m n _ _ hmn
      (follower?_eq_some.mpr ⟨s.tasks[m], List.getElem?_eq_getElem hm, rfl⟩)
      (follower?_eq_some.mpr ⟨s.tasks[n], List.getElem?_eq_getElem hn, rfl⟩)
  have hkey : ∀ task ∈ s.tasksOf key, task.follower.key = key := fun task htask => by
    simpa using (List.mem_filter.mp htask).2
  have hof := hpairwise.filter (·.follower.key = key)
  change (s.tasksOf key).Pairwise _ at hof
  generalize s.tasksOf key = tasks at hkey hof
  induction tasks with
  | nil => exact Nat.zero_le 1
  | cons first rest ih =>
    obtain ⟨hfirst, hrest⟩ := List.pairwise_cons.mp hof
    rw [List.countP_cons]
    cases rest with
    | nil => split <;> simp
    | cons second others =>
      -- The first has a later one of its key, so it is over.
      have hover := hfirst second List.mem_cons_self
        ((hkey first (by simp)).trans (hkey second (by simp)).symm)
      rw [hover]
      exact ih (fun task htask => hkey task (List.mem_cons_of_mem _ htask)) hrest

/-- Of the connections of a key at most one is open. -/
theorem countP_isOpen_le (hs : s.Orderly) (key : String) :
    ((s.tasksOf key).flatMap Task.connections).countP Subscription.isOpen ≤ 1 := by
  refine Nat.le_trans ?_ (hs.countP_running_le key)
  have hsound : ∀ task ∈ s.tasksOf key, task.Sound := by
    intro task htask
    obtain ⟨n, hn⟩ := List.mem_iff_getElem?.mp (List.mem_filter.mp htask).1
    exact hs.sound n task hn
  generalize s.tasksOf key = tasks at hsound
  induction tasks with
  | nil => exact Nat.le_refl 0
  | cons first rest ih =>
    rw [List.flatMap_cons, List.countP_append, List.countP_cons, Nat.add_comm]
    refine Nat.add_le_add (ih fun task htask => hsound task (List.mem_cons_of_mem _ htask)) ?_
    refine Nat.le_trans (hsound first List.mem_cons_self).countP_isOpen_le ?_
    cases first.follower.isOver <;> simp

end Orderly

/-! ### Runs of a service -/

/-- What holds of a service and of what it reported, after a run. -/
structure Reached (s : Service) (reports : List Report) : Prop where
  orderly : s.Orderly
  told : ∀ n topic event, .told n topic event ∈ reports →
    ∃ f, s.follower? n = some f ∧ f.topic = topic
  ordered : ∀ key, (tellers key reports).Pairwise (· ≤ ·)

theorem mem_tellers {key : String} {n : Nat} :
    n ∈ tellers key reports ↔
      ∃ topic event, .told n topic event ∈ reports ∧ topic.displayKey = key := by
  rw [tellers, List.mem_filterMap]
  constructor
  · rintro ⟨report, hreport, hn⟩
    cases report with
    | told m topic event =>
      obtain ⟨hkey, hm⟩ := Option.ite_none_right_eq_some.mp hn
      obtain rfl := Option.some.inj hm
      exact ⟨topic, event, hreport, hkey⟩
    | returned outcome => cases hn
  · rintro ⟨topic, event, hreport, hkey⟩
    exact ⟨_, hreport, if_pos hkey⟩

theorem Reached.step {seen : List Report} (hs : s.Reached seen) {move : Move}
    (h : machine s move = some (t, reports)) : t.Reached (seen ++ reports) := by
  have hcases := hs.orderly.reports_cases h
  refine ⟨hs.orderly.step h, ?_, ?_⟩
  · intro n topic event hmem
    rcases List.mem_append.mp hmem with hmem | hmem
    · obtain ⟨f, hf, rfl⟩ := hs.told n topic event hmem
      exact hs.orderly.exists_topic_eq h hf
    · rcases hcases with hreturn | ⟨m, f, hf, -, htold⟩
      · obtain ⟨_, heq⟩ := hreturn _ hmem
        cases heq
      · obtain ⟨_, heq⟩ := htold _ hmem
        cases heq
        exact hs.orderly.exists_topic_eq h hf
  · intro key
    have hold : ∀ m ∈ tellers key seen, ∃ f, s.follower? m = some f ∧ f.key = key := by
      intro m hm
      obtain ⟨topic, event, hmem, rfl⟩ := mem_tellers.mp hm
      obtain ⟨f, hf, rfl⟩ := hs.told m topic event hmem
      exact ⟨f, hf, rfl⟩
    have hnew : ∀ n ∈ tellers key reports,
        ∃ g, s.follower? n = some g ∧ g.key = key ∧ g.isOver = false := by
      intro n hn
      obtain ⟨topic, event, hmem, rfl⟩ := mem_tellers.mp hn
      rcases hcases with hreturn | ⟨l, g, hg, hrunning, htold⟩
      · obtain ⟨_, heq⟩ := hreturn _ hmem
        cases heq
      · obtain ⟨_, heq⟩ := htold _ hmem
        cases heq
        exact ⟨g, hg, rfl, hrunning⟩
    rw [tellers, List.filterMap_append, List.pairwise_append]
    refine ⟨hs.ordered key, List.pairwise_of_forall_mem_list fun m hm n hn => ?_,
      fun m hm n hn => ?_⟩
    · obtain ⟨f, hf, hfkey, -⟩ := hnew m hm
      obtain ⟨g, hg, hgkey, hrunning⟩ := hnew n hn
      exact hs.orderly.le_of_running hf hg (hfkey.trans hgkey.symm) hrunning
    · obtain ⟨f, hf, hfkey⟩ := hold m hm
      obtain ⟨g, hg, hgkey, hrunning⟩ := hnew n hn
      exact hs.orderly.le_of_running hf hg (hfkey.trans hgkey.symm) hrunning

theorem reached_of_run {base : Url} {policy : ReconnectPolicy} {moves : List Move}
    (h : machine.run (start base policy) moves = some (s, reports)) : s.Reached reports :=
  Machine.run_induction (motive := fun _ s reports => s.Reached reports)
    ⟨orderly_start base policy, by simp, fun key => .nil⟩ (fun _ hs hstep => hs.step hstep) h

/-- **One live subscription for each key.** After every run of a service, whatever its calls, its
tasks and their upstreams did: of the tasks of a key at most one is not over, of the connections
made for a key at most one is open, a call is refused because its key is followed if and only if
the key has an entry that has not closed, and the tasks of a key told the handler one after
another, in the order in which they were started. -/
theorem one_live_subscription {base : Url} {policy : ReconnectPolicy} {moves : List Move}
    (h : machine.run (start base policy) moves = some (s, reports)) :
    (∀ key, (s.tasksOf key).countP (!·.follower.isOver) ≤ 1) ∧
    (∀ key, ((s.tasksOf key).flatMap Task.connections).countP Subscription.isOpen ≤ 1) ∧
    (∀ move t more key, machine s move = some (t, more) →
      (.returned (.subscribed (.error (.alreadySubscribed key))) ∈ more ↔
        (∃ topic, move.topic? = some topic ∧ topic.displayKey = key) ∧
          ∃ n ∈ s.entries, ∃ f, s.follower? n = some f ∧ f.key = key ∧ f.state ≠ .closed)) ∧
    ∀ key, (tellers key reports).Pairwise (· ≤ ·) := by
  have hs := reached_of_run h
  refine ⟨hs.orderly.countP_running_le, hs.orderly.countP_isOpen_le, ?_, hs.ordered⟩
  intro move t more key hmove
  exact hs.orderly.refusal_mem_iff hmove key

/-- What may happen to a service that is asked three times for a topic: the second time its key is
followed, and the third time its upstream has gone. -/
def replacement (topic : Topic) : List Move :=
  [.subscribeTopic topic, .connected fun _ => none, .occur 0 .event, .subscribeTopic topic,
    .occur 0 (.signal .ended), .occur 0 .event, .subscribeTopic topic, .resume,
    .connected fun _ => none, .occur 1 .event]

/-- A key that is followed again has two tasks, of which one runs and tells the handler last. -/
theorem tellers_of_replacement :
    ∃ s reports, machine.run (start Topic.slashed .disabled)
        (replacement ⟨"a", none, none, []⟩) = some (s, reports) ∧
      tellers "a" reports = [0, 0, 1] ∧ (s.tasksOf "a").length = 2 ∧
      (s.tasksOf "a").countP (!·.follower.isOver) ≤ 1 ∧
      ((s.tasksOf "a").flatMap Task.connections).countP Subscription.isOpen ≤ 1 ∧
      (tellers "a" reports).Pairwise (· ≤ ·) := by
  have hrun : (machine.run (start Topic.slashed .disabled)
      (replacement ⟨"a", none, none, []⟩)).map
        (fun (s, reports) => (tellers "a" reports, (s.tasksOf "a").length)) =
      some ([0, 0, 1], 2) := by
    decide +kernel
  obtain ⟨⟨s, reports⟩, hrun, hseen⟩ := Option.map_eq_some_iff.mp hrun
  obtain ⟨htellers, hlength⟩ := Prod.mk.inj hseen
  obtain ⟨hrunning, hopen, -, hordered⟩ := one_live_subscription hrun
  exact ⟨s, reports, hrun, htellers, hlength, hrunning "a", hopen "a", hordered "a"⟩

end Service

end FeedRelay.Feed
