import FeedRelay.Feed.Clock
import FeedRelay.Proofs.Feed.ServiceRoster
import FeedRelay.Proofs.Feed.ShutdownEnds

/-!
# A clock and the tasks of a service

On a clock the followers of a roster go on one after another: the delay that ends next is over, and
its follower makes an attempt to connect. The tasks of a service go on in any order, and so also in
that of the clock. What a follower on a clock does not wait for is passed over, and the task of the
service makes a run of the rest (`Follower.exists_run_heard`). A task that has changed stands where
it stood, since its key is the same and the entries stand in the order of their keys
(`Service.filterMap_change`).

## Main results

* `Service.exists_run_tick`: where a clock goes with its roster, a service can go with its tasks.
-/

namespace FeedRelay.Feed

namespace Follower

variable {f : Follower}

/-- A follower that passes over what it does not wait for makes a run of the rest. -/
theorem exists_run_heard (f : Follower) (occurrences : List Occurrence) :
    ∃ heard actions, heard.Sublist occurrences ∧
      machine.run f heard = some ((f.run occurrences).1, actions) := by
  induction occurrences generalizing f with
  | nil => exact ⟨[], [], .slnil, rfl⟩
  | cons occurrence rest ih =>
    cases hstep : f.step occurrence with
    | none =>
      obtain ⟨heard, actions, hsub, hrun⟩ := ih f
      refine ⟨heard, actions, hsub.cons occurrence, ?_⟩
      simpa only [Follower.run, hstep] using hrun
    | some next =>
      obtain ⟨heard, actions, hsub, hrun⟩ := ih next.1
      refine ⟨occurrence :: heard, next.2 ++ actions, hsub.cons_cons occurrence, ?_⟩
      simp only [Follower.run, hstep]
      exact machine.run_append (machine.run_singleton.mpr hstep) hrun

/-- The end of a delay, with the attempt to connect that it brings, is a run in which nothing else
happens. -/
theorem Sound.exists_run_retry (hf : f.Sound) (network : Connect) (base : Url) :
    ∃ heard actions, heard.Sublist [.elapsed, .attempt (connect network f.topic base).1] ∧
      machine.run f heard = some ((f.retry network base).1, actions) := by
  obtain ⟨heard, actions, hsub, hrun⟩ := f.exists_run_heard [.elapsed]
  obtain ⟨later, more, hsub', hlater⟩ :=
    (f.run [.elapsed]).1.exists_run_heard [.attempt (connect network f.topic base).1]
  refine ⟨heard ++ later, actions ++ more, hsub.append hsub', machine.run_append hrun ?_⟩
  have hretry : (f.retry network base).1 = ((f.run [.elapsed]).1.run
      [.attempt (connect network (f.run [.elapsed]).1.topic base).1]).1 := rfl
  rw [hlater, hretry, (sound_of_run hf hrun).2]

end Follower

namespace Service

variable {s t : Service} {n : Nat} {f g : Follower} {reports : List Report}

/-! ### A task in its place -/

/-- One of several followers that stand in the order of their keys has changed, and its key has
not. -/
theorem filterMap_change {look after : Nat → Option Follower} {key : Nat → String} {list : List Nat}
    (hkey : ∀ m ∈ list, ∃ h, look m = some h ∧ key m = h.key)
    (hsorted : list.Pairwise (key · < key ·)) (hn : n ∈ list) (hg : after n = some g)
    (hsame : g.key = key n) (hothers : ∀ m ∈ list, m ≠ n → after m = look m) :
    list.filterMap after = Roster.insert g (list.filterMap look) := by
  induction list with
  | nil => cases hn
  | cons m rest ih =>
    obtain ⟨hm, hrest⟩ := List.pairwise_cons.mp hsorted
    obtain ⟨⟨h, hlook, hmkey⟩, hkeys⟩ := List.forall_mem_cons.mp hkey
    obtain ⟨hfirst, hlater⟩ := List.forall_mem_cons.mp hothers
    rw [List.filterMap_cons_some hlook]
    rcases List.mem_cons.mp hn with rfl | hn
    · have hother : rest.filterMap after = rest.filterMap look := by
        refine List.filterMap_congr fun k hk => hlater k hk ?_
        rintro rfl
        exact String.lt_irrefl _ (hm k hk)
      rw [List.filterMap_cons_some hg, hother, Roster.insert, if_pos (hsame.trans hmkey)]
    · have hlt : h.key < g.key := by
        rw [← hmkey, hsame]
        exact hm n hn
      have hne : m ≠ n := by
        rintro rfl
        exact String.lt_irrefl _ (hm m hn)
      rw [List.filterMap_cons_some ((hfirst hne).trans hlook), ih hkeys hrest hn hlater,
        Roster.insert, if_neg (fun heq => String.lt_irrefl _ (heq ▸ hlt)),
        if_neg (String.lt_asymm hlt)]

/-- What happens to the task of an entry changes the roster at its key. -/
theorem Orderly.roster_of_occurs (hs : s.Orderly)
    (hsorted : s.entries.Pairwise (s.keyOf · < s.keyOf ·)) {occurrences : List Occurrence}
    (hrun : machine.run s (occurrences.map (.occur n)) = some (t, reports))
    (hentries : t.entries = s.entries) (hn : n ∈ s.entries) (hg : t.follower? n = some g) :
    t.roster = s.roster.put g := by
  have hsame : g.key = s.keyOf n := by
    rw [← keyOf_of_follower? hg]
    exact (hs.keyOf_of_run hrun (hs.lt_of_mem_entries hn)).2.2
  have hothers : ∀ m ∈ s.entries, m ≠ n → t.follower? m = s.follower? m := by
    intro m hm hne
    obtain ⟨f, hf⟩ := exists_follower? (hs.lt_of_mem_entries hm)
    obtain ⟨k, actions, hsteps, hk⟩ := follower?_of_run hrun hf
    rw [stepsOf_map_occur_of_ne hne.symm] at hsteps
    cases hsteps
    rw [hk, hf]
  have hplace : s.entries.filterMap t.follower? = Roster.insert g s.roster.followers :=
    filterMap_change (fun m hm =>
      have ⟨f, hf⟩ := exists_follower? (hs.lt_of_mem_entries hm)
      ⟨f, hf, keyOf_of_follower? hf⟩) hsorted hn hg hsame hothers
  obtain ⟨hbase, hpolicy⟩ := settings_of_run hrun
  rw [roster, hbase, hpolicy, hentries, hplace]
  rfl

/-! ### Delays on a clock -/

theorem roster_schedule (c : Clock) (key : String) : (c.schedule key).roster = c.roster := by
  rw [Clock.schedule]
  split <;> rfl

/-- The end of a delay changes the roster at one key at most. -/
theorem roster_tick {c d : Clock} {network : Connect} (h : c.tick network = some d) :
    d.roster = c.roster ∨ ∃ key f, c.roster.find? key = some f ∧
      d.roster = c.roster.put (f.retry network c.roster.base).1 := by
  unfold Clock.tick at h
  split at h
  · cases h
  · dsimp only at h
    split at h
    · cases h
      exact .inl rfl
    · rename_i f hfind
      cases h
      exact .inr ⟨_, f, hfind, roster_schedule _ _⟩

/-- Where a clock goes with its roster, a service can go with its tasks. All that happens is that
a delay ends, or that an attempt to connect comes out as the network answers it. -/
theorem exists_run_tick {base : Url} {policy : ReconnectPolicy} {before : List Move}
    {seen : List Report} (hs : machine.run (start base policy) before = some (s, seen))
    {c d : Clock} (hroster : s.roster = c.roster) {network : Connect}
    (htick : c.tick network = some d) :
    ∃ (n : Nat) (occurrences : List Occurrence) (t : Service) (reports : List Report),
      (∀ occurrence ∈ occurrences, occurrence = .elapsed ∨
        ∃ topic, occurrence = .attempt (connect network topic s.base).1) ∧
      machine.run s (occurrences.map (.occur n)) = some (t, reports) ∧
      (∀ report ∈ reports, ∃ topic event, report = .told n topic event) ∧
      t.call = s.call ∧ t.roster = d.roster := by
  obtain hsame | ⟨key, f, hfind, hput⟩ := roster_tick htick
  · exact ⟨0, [], s, [], by simp, rfl, by simp, rfl, hroster.trans hsame.symm⟩
  · have horderly := (reached_of_run hs).orderly
    rw [← hroster] at hfind hput
    obtain ⟨n, hn, hf⟩ := List.mem_filterMap.mp (List.mem_of_find?_eq_some hfind)
    obtain ⟨task, htask, rfl⟩ := follower?_eq_some.mp hf
    obtain ⟨heard, actions, hsub, hretry⟩ :=
      (horderly.sound n task htask).follower.exists_run_retry network s.base
    have hstop : .stop ∉ heard := fun hmem => by simpa using hsub.subset hmem
    obtain ⟨t, reports, hrun, htold, hcall, hentries, hg⟩ :=
      run_task htask (fun hmem => absurd hmem hstop) hretry
    have hsorted : s.entries.Pairwise (s.keyOf · < s.keyOf ·) := by
      have hkeys := sorted_of_run hs
      rwa [horderly.keys_roster, List.pairwise_map] at hkeys
    refine ⟨n, heard, t, reports, fun occurrence hmem => ?_, hrun, htold, hcall, ?_⟩
    · have hmem := hsub.subset hmem
      simp only [List.mem_cons, List.not_mem_nil, or_false] at hmem
      exact hmem.imp_right fun h => ⟨_, h⟩
    · rw [horderly.roster_of_occurs hsorted hrun hentries hn hg]
      exact hput.symm

end Service

end FeedRelay.Feed
