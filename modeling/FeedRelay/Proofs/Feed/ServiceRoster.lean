import Mathlib.Data.List.Basic
import Mathlib.Data.List.Find
import FeedRelay.Proofs.Feed.TaskHistory

/-!
# The roster of a service

The entries of a service are a roster, and its calls do to that roster what the functions of a
roster do. A subscription that is not interrupted by other steps ends where `Roster.subscribe`
leads, with the same result (`Service.run_subscribeTopic`); an entry is taken away as by
`Roster.drop` (`Service.machine_unsubscribe`), and all of them at once by a shutdown
(`Service.machine_shutdown`).

The keys of the roster are those of the entries. They stand in order, so none stands twice
(`Service.sorted_of_run`).
-/

namespace FeedRelay.Feed

namespace Service

variable {s t : Service} {topic : Topic} {network : Connect}

/-- Taking an entry away drops its follower from the roster. -/
theorem filterMap_filter_keyOf (key : String) (entries : List Nat) :
    (entries.filter (s.keyOf · ≠ key)).filterMap s.follower? =
      (entries.filterMap s.follower?).filter (·.key ≠ key) := by
  rw [List.filterMap_filter, List.filter_filterMap]
  refine List.filterMap_congr fun n _ => ?_
  cases hn : s.follower? n with
  | none => simp
  | some f => simp [keyOf_of_follower? hn, Option.filter]

theorem roster_takeDown (s : Service) (key : String) (n : Nat) (call : Call) :
    (s.takeDown key n call).roster = s.roster.drop key := by
  have hfollower : (s.takeDown key n call).follower? = s.follower? := by
    funext m
    rw [follower?, follower?, followers_takeDown]
  rw [roster, hfollower]
  exact congrArg (Roster.mk s.base s.policy) (filterMap_filter_keyOf key s.entries)

theorem roster_drop_of_free {key : String} (h : s.entryOf key = none) :
    s.roster.drop key = s.roster := by
  refine congrArg (Roster.mk s.base s.policy) (List.filter_eq_self.mpr fun f hf => ?_)
  obtain ⟨n, hn, hnf⟩ := List.mem_filterMap.mp hf
  have hne := keyOf_ne_of_entryOf h n hn
  rw [keyOf_of_follower? hnf] at hne
  simpa using hne

/-- A task in its place is a follower in its place. -/
theorem filterMap_place {look : Nat → Option Follower} {n : Nat} {f : Follower} {list : List Nat}
    (hn : look n = some f) (hlist : ∀ m ∈ list, ∃ g, look m = some g) :
    (place (fun m => (look m).elim "" Follower.key) n list).filterMap look =
      Roster.insert f (list.filterMap look) := by
  induction list with
  | nil => simp [place, Roster.insert, hn]
  | cons m rest ih =>
    obtain ⟨g, hg⟩ := hlist m List.mem_cons_self
    have hrest := ih fun l hl => hlist l (List.mem_cons_of_mem _ hl)
    rw [List.filterMap_cons_some hg]
    simp only [place, Roster.insert, hn, hg, Option.elim_some]
    split
    · exact List.filterMap_cons_some hn
    · split
      · rw [List.filterMap_cons_some hn, List.filterMap_cons_some hg]
      · rw [List.filterMap_cons_some hg, ← hrest]

/-- A task that starts is put among the followers of the roster. -/
theorem roster_follow (hlt : ∀ n ∈ s.entries, n < s.followers.length) (topic : Topic)
    (url : Option Url) :
    (s.follow topic url).1.roster = s.roster.put (Follower.start topic s.policy url).1 := by
  have hold : ∀ n ∈ s.entries, (s.follow topic url).1.follower? n = s.follower? n := by
    intro n hn
    obtain ⟨f, hf⟩ := exists_follower? (hlt n hn)
    rw [hf]
    exact follower?_follow.mpr (Or.inl hf)
  have hplace : (place (s.follow topic url).1.keyOf s.tasks.length s.entries).filterMap
      (s.follow topic url).1.follower? = _ :=
    filterMap_place (follower?_follow.mpr (Or.inr ⟨rfl, rfl⟩)) fun n hn => by
      rw [hold n hn]
      exact exists_follower? (hlt n hn)
  rw [List.filterMap_congr hold] at hplace
  exact congrArg (Roster.mk s.base s.policy) hplace

/-! ### Keys and states -/

/-- The keys of the roster are those of the entries. -/
theorem Orderly.keys_roster (hs : s.Orderly) : s.roster.keys = s.entries.map s.keyOf := by
  rw [Roster.keys, roster, List.map_filterMap, ← List.filterMap_eq_map]
  refine List.filterMap_congr fun n hn => ?_
  obtain ⟨f, hf⟩ := exists_follower? (hs.lt_of_mem_entries hn)
  rw [hf, Option.map_some, Function.comp_apply, keyOf_of_follower? hf]

theorem Orderly.isEmpty_roster (hs : s.Orderly) : s.roster.isEmpty = s.entries.isEmpty := by
  have hlength := congrArg List.length hs.keys_roster
  rw [Roster.keys, List.length_map, List.length_map] at hlength
  rw [Roster.isEmpty, Bool.eq_iff_iff, List.isEmpty_iff_length_eq_zero,
    List.isEmpty_iff_length_eq_zero, hlength]

/-- The state of a key in the roster is that of the task of its entry. -/
theorem Orderly.state?_roster (hs : s.Orderly) (key : String) :
    s.roster.state? key = (s.entryOf key).bind fun n => (s.follower? n).map Follower.state := by
  have hfind : s.entries.find? (fun n => (s.follower? n).any (·.key = key)) = s.entryOf key := by
    refine List.find?_congr fun n hn => ?_
    obtain ⟨f, hf⟩ := exists_follower? (hs.lt_of_mem_entries hn)
    rw [hf, Option.any_some, keyOf_of_follower? hf]
  rw [Roster.state?, Roster.find?, roster, List.find?_filterMap, hfind, Option.map_bind]
  rfl

theorem place_sorted {key : Nat → String} {n : Nat} {list : List Nat}
    (h : list.Pairwise (key · < key ·)) : (place key n list).Pairwise (key · < key ·) := by
  induction list with
  | nil => exact .cons (by simp) .nil
  | cons m rest ih =>
    obtain ⟨hm, hrest⟩ := List.pairwise_cons.mp h
    unfold place
    split
    · rename_i heq
      exact .cons (fun l hl => heq ▸ hm l hl) hrest
    · rename_i hne
      split
      · rename_i hlt
        refine .cons (fun l hl => ?_) h
        rcases List.mem_cons.mp hl with rfl | hl
        · exact hlt
        · exact String.lt_trans hlt (hm l hl)
      · rename_i hle
        refine .cons (fun l hl => ?_) (ih hrest)
        rcases mem_place hl with rfl | hl
        · refine String.not_le.mp fun hge => hne ?_
          exact String.le_antisymm hge (String.not_lt.mp hle)
        · exact hm l hl

theorem Orderly.sorted_of_machine {move : Move} {reports : List Report} (hs : s.Orderly)
    (h : machine s move = some (t, reports))
    (hsorted : s.entries.Pairwise (s.keyOf · < s.keyOf ·)) :
    t.entries.Pairwise (t.keyOf · < t.keyOf ·) := by
  have hold : s.entries.Pairwise (t.keyOf · < t.keyOf ·) := by
    refine hsorted.imp_of_mem fun hm hn hlt => ?_
    rw [(hs.keyOf_of_machine h (hs.lt_of_mem_entries hm)).2,
      (hs.keyOf_of_machine h (hs.lt_of_mem_entries hn)).2]
    exact hlt
  rcases entries_of_machine h with hsub | hplace
  · exact hold.sublist hsub
  · rw [hplace]
    exact place_sorted hold

/-- The keys of a roster stand in order. -/
theorem sorted_of_run {base : Url} {policy : ReconnectPolicy} {moves : List Move}
    {reports : List Report} (h : machine.run (start base policy) moves = some (s, reports)) :
    s.roster.keys.Pairwise (· < ·) := by
  obtain ⟨hs, hsorted⟩ := Machine.run_induction
    (motive := fun _ s _ => s.Orderly ∧ s.entries.Pairwise (s.keyOf · < s.keyOf ·))
    ⟨orderly_start base policy, .nil⟩
    (fun _ ⟨hs, hsorted⟩ hstep => ⟨hs.step hstep, hs.sorted_of_machine hstep hsorted⟩) h
  rw [hs.keys_roster]
  exact hsorted.map _ fun _ _ hlt => hlt

/-! ### What calls do to the roster -/

/-- From the roster without the key on, a subscription ends as if it had not been interrupted. -/
theorem connected_eq_subscribe {roster : Roster}
    (hlt : ∀ n ∈ s.entries, n < s.followers.length)
    (hroster : s.roster = roster.drop topic.displayKey)
    (hlive : roster.isLive topic.displayKey = false) (network : Connect) :
    (s.connected topic network).1.roster = (roster.subscribe network topic).roster ∧
      (s.connected topic network).1.call = .idle ∧
      (s.connected topic network).2 =
        [.returned (.subscribed (roster.subscribe network topic).result)] := by
  obtain ⟨base, policy, followers⟩ := roster
  obtain rfl : s.base = base := congrArg Roster.base hroster
  obtain rfl : s.policy = policy := congrArg Roster.policy hroster
  have hfollow (url : Option Url) := roster_follow hlt topic url
  rw [hroster] at hfollow
  unfold connected Roster.subscribe
  simp only [hlive, Bool.false_eq_true, if_false, Roster.drop]
  rcases connect network topic s.base with ⟨result, log⟩
  cases result with
  | ok url => exact ⟨hfollow (some url), rfl, reports_follow s topic (some url)⟩
  | error failure =>
    cases hretry : failure.isOfConnection && s.policy.enabled with
    | true =>
      simp only [hretry, if_true]
      exact ⟨hfollow none, rfl, reports_follow s topic none⟩
    | false =>
      simp only [hretry, Bool.false_eq_true, if_false]
      exact ⟨hroster, trivial, trivial⟩

/-- A key that is not followed any more has no task that runs. -/
theorem Orderly.isOver_of_not_live (hs : s.Orderly) {key : String} {n : Nat}
    (hn : s.entryOf key = some n) (hlive : s.roster.isLive key = false) : s.isOver n = true := by
  obtain ⟨hmem, hkey⟩ := entryOf_eq_some hn
  obtain ⟨f, hf⟩ := exists_follower? (hs.lt_length n (List.mem_append_left _ hmem))
  rw [keyOf_of_follower? hf] at hkey
  have hclosed : f.state = .closed := by
    by_contra hne
    rw [hs.isLive_iff.mpr ⟨n, hmem, f, hf, hkey, hne⟩] at hlive
    cases hlive
  rw [isOver, hf, Option.any_some]
  exact ((hs.closed_iff hf).mp hclosed).1

/-- A subscription that is not interrupted does what `Roster.subscribe` does. -/
theorem run_subscribeTopic (hs : s.Orderly) (hidle : s.call = .idle) (topic : Topic)
    (network : Connect) :
    ∃ moves t, (∀ move ∈ moves, move = .resume ∨ move = .connected network) ∧
      machine.run s (.subscribeTopic topic :: moves) =
        some (t, [.returned (.subscribed (s.roster.subscribe network topic).result)]) ∧
      t.roster = (s.roster.subscribe network topic).roster ∧ t.call = .idle := by
  have hask : machine s (.subscribeTopic topic) = some (s.ask topic) := by
    rw [machine, hidle]
    rfl
  cases hlive : s.roster.isLive topic.displayKey with
  | true =>
    have hrefused : s.roster.subscribe network topic = _ := if_pos hlive
    have heq : s.ask topic = _ := if_pos hlive
    refine ⟨[], s, by simp, ?_, by rw [hrefused], hidle⟩
    rw [Machine.run_singleton, hask, heq, hrefused]
  | false =>
    have hconnect (u : Service) (hlt : ∀ n ∈ u.entries, n < u.followers.length)
        (hu : u.roster = s.roster.drop topic.displayKey) (hcall : u.call = .connecting topic) :
        ∃ t, machine.run u [.connected network] =
            some (t, [.returned (.subscribed (s.roster.subscribe network topic).result)]) ∧
          t.roster = (s.roster.subscribe network topic).roster ∧ t.call = .idle := by
      obtain ⟨hroster, hdone, hreports⟩ := connected_eq_subscribe hlt hu hlive network
      refine ⟨(u.connected topic network).1, ?_, hroster, hdone⟩
      rw [Machine.run_singleton, machine, hcall, ← hreports]
    have heq : s.ask topic = _ := if_neg (ne_true_of_eq_false hlive)
    have hlt : ∀ n ∈ s.entries, n < s.followers.length := fun n hn =>
      hs.lt_length n (List.mem_append_left _ hn)
    cases hn : s.entryOf topic.displayKey with
    | none =>
      rw [heq, hn] at hask
      obtain ⟨t, hrun, hroster, hdone⟩ :=
        hconnect { s with call := .connecting topic } hlt (roster_drop_of_free hn).symm rfl
      exact ⟨[.connected network], t, by simp,
        machine.run_append (machine.run_singleton.mpr hask) hrun, hroster, hdone⟩
    | some n =>
      rw [heq, hn] at hask
      -- The task of the entry is over, so the call need not wait for it.
      have hresume : machine (s.takeDown topic.displayKey n (.replacing topic n)) .resume =
          some ({ s.takeDown topic.displayKey n (.replacing topic n) with
            call := .connecting topic }, []) := by
        have hover : (s.takeDown topic.displayKey n (.replacing topic n)).isOver n = true := by
          rw [isOver, follower?, followers_takeDown]
          exact hs.isOver_of_not_live hn hlive
        exact if_pos hover
      obtain ⟨t, hrun, hroster, hdone⟩ := hconnect
        { s.takeDown topic.displayKey n (.replacing topic n) with call := .connecting topic }
        (fun m hm => by
          change m < (s.takeDown topic.displayKey n (.replacing topic n)).followers.length
          rw [followers_takeDown]
          exact hlt m (mem_entries_takeDown.mp hm).1)
        (s.roster_takeDown _ _ _) rfl
      exact ⟨[.resume, .connected network], t, by simp,
        machine.run_append (machine.run_singleton.mpr hask)
          (machine.run_append (machine.run_singleton.mpr hresume) hrun), hroster, hdone⟩

/-- To unsubscribe from a key takes its follower away from the roster, if there is one. -/
theorem machine_unsubscribe (hs : s.Orderly) (hidle : s.call = .idle) (key : String) :
    ∃ t reports, machine s (.unsubscribe key) = some (t, reports) ∧
      t.roster = s.roster.drop key ∧
      (s.roster.find? key = none → t = s ∧ reports = [.returned (.unsubscribed false)]) := by
  have hleave : machine s (.unsubscribe key) = some (s.leave key) := by
    rw [machine, hidle]
    rfl
  refine ⟨(s.leave key).1, (s.leave key).2, hleave, ?_⟩
  unfold leave
  cases hn : s.entryOf key with
  | none => exact ⟨(roster_drop_of_free hn).symm, fun _ => ⟨rfl, rfl⟩⟩
  | some n =>
    refine ⟨s.roster_takeDown key n _, fun hfind => ?_⟩
    obtain ⟨hmem, hkey⟩ := entryOf_eq_some hn
    obtain ⟨f, hf⟩ := exists_follower? (hs.lt_length n (List.mem_append_left _ hmem))
    rw [keyOf_of_follower? hf] at hkey
    exact absurd hkey
      (by simpa using List.find?_eq_none.mp hfind f (List.mem_filterMap.mpr ⟨n, hmem, hf⟩))

/-- A shutdown takes all followers away from the roster. -/
theorem machine_shutdown (hidle : s.call = .idle) :
    ∃ t reports, machine s (.shutdown s.entries) = some (t, reports) ∧
      t.roster = { s.roster with followers := [] } := by
  have hclear : machine s (.shutdown s.entries) =
      some (({ s with entries := [] } : Service).clear s.entries) := by
    rw [machine, if_pos ⟨by rw [hidle]; rfl, List.Perm.refl _⟩]
  refine ⟨_, _, hclear, ?_⟩
  cases s.entries <;> rfl

end Service

end FeedRelay.Feed
