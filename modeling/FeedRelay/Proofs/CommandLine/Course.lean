import FeedRelay.Proofs.CommandLine.Program
import FeedRelay.Proofs.Feed.ClockSteps

/-!
# The course of a run

A run that has begun goes on from one delay to the next (`Run.Passes`). It ends where an interrupt
comes or, if it watches, where all that it follows has closed, and it stays where it is if nobody
waits any more (`Run.Course`).

A program can keep up with a run. Where a delay of the run is over, tasks of its service make steps
(`Program.exists_passed`), and where the run is finished, the program leaves for the same reason
and returns (`Program.exists_finished`). So wherever a run gets to, there is a way of the program
that ends with the same followers (`Program.exists_gone`).

## Main definitions

* `Run.Passes`, `Run.Course`: how far a run gets, and where that leads.
* `Program.IsAt`: a program is where a run is.

## Main results

* `Run.course`: the course of any run.
* `Program.exists_gone`: a program that is where a run is can get to where the run gets.
-/

namespace FeedRelay.CommandLine

namespace Run

variable {network : Feed.Connect} {interrupt : Run → Bool} {run last : Run} {n : Nat}

/-- Whether there is a reason to end a run where it is. -/
def shouldEnd (interrupt : Run → Bool) (run : Run) : Bool :=
  run.isDone || interrupt run

/-- A run that is not over comes through some delays, without a reason to end before that. -/
inductive Passes (network : Feed.Connect) (interrupt : Run → Bool) : Nat → Run → Run → Prop
  | here {run : Run} (hexit : run.exit = none) : Passes network interrupt 0 run run
  | delay {n : Nat} {run last : Run} {clock : Feed.Clock} (hexit : run.exit = none)
      (hgoing : run.shouldEnd interrupt = false) (htick : run.clock.tick network = some clock)
      (hrest : Passes network interrupt n { run with clock } last) :
      Passes network interrupt (n + 1) run last

/-- Where a run gets to. -/
structure Course (network : Feed.Connect) (interrupt : Run → Bool) (run : Run) : Prop where
  /-- A run that is over stays as it is. -/
  finished : run.exit.isSome = true → ∀ fuel, go network interrupt fuel run = run
  /-- A run ends where it first has a reason to. -/
  ends : ∀ n last, Passes network interrupt n run last → last.shouldEnd interrupt = true →
    ∀ fuel, go network interrupt (n + 1 + fuel) run = last.finish (!last.isDone)
  /-- A run stays where nobody waits. -/
  rests : ∀ n last, Passes network interrupt n run last → last.shouldEnd interrupt = false →
    last.clock.tick network = none → ∀ fuel, go network interrupt (n + fuel) run = last
  /-- Until then a run waits for as many delays as it may. -/
  waits : ∀ n last, Passes network interrupt n run last → go network interrupt n run = last

theorem go_of_exit (hexit : run.exit.isSome = true) (fuel : Nat) :
    go network interrupt fuel run = run := by
  cases fuel with
  | zero => rfl
  | succ fuel => exact if_pos hexit

theorem go_of_shouldEnd (hexit : run.exit = none) (hend : run.shouldEnd interrupt = true)
    (fuel : Nat) : go network interrupt (fuel + 1) run = run.finish (!run.isDone) := by
  cases hdone : run.isDone with
  | true => simp [go, hexit, hdone]
  | false => simp_all [go, shouldEnd]

theorem go_of_tick (hexit : run.exit = none) (hgoing : run.shouldEnd interrupt = false)
    (fuel : Nat) : go network interrupt (fuel + 1) run =
      (run.clock.tick network).elim run fun clock =>
        go network interrupt fuel { run with clock } := by
  obtain ⟨hdone, hinterrupt⟩ := Bool.or_eq_false_iff.mp hgoing
  cases htick : run.clock.tick network <;> simp [go, hexit, hdone, hinterrupt, htick]

/-- What a run does after some delays is what is done from there on. -/
theorem Passes.go_add (h : Passes network interrupt n run last) (fuel : Nat) :
    last.exit = none ∧ go network interrupt (n + fuel) run = go network interrupt fuel last := by
  induction h with
  | here hexit => exact ⟨hexit, by rw [Nat.zero_add]⟩
  | delay hexit hgoing htick _ ih =>
    refine ⟨ih.1, ?_⟩
    rw [Nat.add_right_comm, go_of_tick hexit hgoing, htick]
    exact ih.2

/-- The course of a run, whatever the network answers and whenever an interrupt comes. -/
theorem course (network : Feed.Connect) (interrupt : Run → Bool) (run : Run) :
    run.Course network interrupt where
  finished := go_of_exit
  ends n last hpasses hend fuel := by
    obtain ⟨hexit, hgo⟩ := hpasses.go_add (1 + fuel)
    rw [Nat.add_assoc, hgo, Nat.add_comm]
    exact go_of_shouldEnd hexit hend fuel
  rests n last hpasses hgoing htick fuel := by
    obtain ⟨hexit, hgo⟩ := hpasses.go_add fuel
    rw [hgo]
    cases fuel with
    | zero => rfl
    | succ fuel => rw [go_of_tick hexit hgoing, htick, Option.elim_none]
  waits n last hpasses := (hpasses.go_add 0).2

end Run

namespace Program

variable {p : Program} {run : Run} {listener : Option Address.Socket} {base : Url}
  {policy : ReconnectPolicy} {before : List Move} {network : Feed.Connect}

/-- A program is where a run is: it is there for the same and has the same followers, and it serves
until the run is over and has returned with success then. -/
structure IsAt (p : Program) (run : Run) : Prop where
  task_eq : p.task = run.task
  roster_eq : p.service.roster = run.clock.roster
  serving : run.exit = none → ∃ server, p.doing = .serving server
  returned : ∀ code, run.exit = some code → code = 0 ∧ p.doing = .returned (.ok ())

/-- A program that has subscribed to its topics comes to be where a run begins that follows what the
program follows. -/
theorem exists_served (p : Program) (hdoing : p.doing = .subscribing []) (hs : p.service.Orderly)
    (filter : Log.Filter) (command : Command) (htask : p.task = .relay ↔ command = .relay)
    {clock : Feed.Clock} (hroster : p.service.roster = clock.roster) :
    ∃ q written, machine p .serve = some (q, written) ∧
      q.IsAt (Run.ofCommand filter command clock) := by
  rw [task, taskOf_eq_relay] at htask
  cases command with
  | relay =>
    obtain ⟨socket, hlistener⟩ := Option.isSome_iff_exists.mp (htask.mpr rfl)
    simp only [machine, hdoing, hlistener]
    refine ⟨_, _, rfl, ⟨rfl, hroster, fun _ => ⟨_, rfl⟩, fun code hexit => ?_⟩⟩
    cases hexit
  | watch url topics =>
    have hlistener : p.listener = none := by simpa using htask
    have hempty := hs.isEmpty_roster
    rw [hroster] at hempty
    simp only [machine, hdoing, hlistener, Run.ofCommand, ← hempty]
    cases clock.roster.isEmpty with
    | true =>
      refine ⟨_, _, rfl, ⟨rfl, hroster, fun hexit => ?_, fun code hexit => ?_⟩⟩
      · cases hexit
      · exact ⟨(Option.some.inj hexit).symm, rfl⟩
    | false =>
      refine ⟨_, _, rfl, ⟨rfl, hroster, fun _ => ⟨_, rfl⟩, fun code hexit => ?_⟩⟩
      cases hexit

/-- Where a delay of a run is over, a program can get by steps of its tasks. -/
theorem exists_passed (h : Reached listener base policy before p) (hp : p.IsAt run)
    {clock : Feed.Clock} (htick : run.clock.tick network = some clock) :
    ∃ (inner : List Feed.Service.Move) (q : Program) (written : List Written),
      machine.run p (inner.map .service) = some (q, written) ∧ q.IsAt { run with clock } := by
  obtain ⟨calls, seen, hservice⟩ := h.exists_run
  obtain ⟨n, occurrences, t, reports, -, hrun, htold, -, hroster⟩ :=
    Feed.Service.exists_run_tick hservice hp.roster_eq htick
  have hinner : ∀ move ∈ occurrences.map (Feed.Service.Move.occur n), move.isInner = true :=
    List.forall_mem_map.mpr fun _ _ => rfl
  obtain ⟨hkept, hlistener⟩ := hearAll_kept (p.withService t) reports
  have hdoing : ((p.withService t).hearAll reports).1.doing = p.doing :=
    doing_hearAll_of_told _ fun report hreport => ⟨n, htold report hreport⟩
  refine ⟨_, _, _, run_service hinner hrun, ⟨?_, ?_, fun hexit => ?_, fun code hexit => ?_⟩⟩
  · rw [task, hlistener]
    exact hp.task_eq
  · rw [hkept]
    exact hroster
  · rw [hdoing]
    exact hp.serving hexit
  · rw [hdoing]
    exact hp.returned code hexit

/-- If a run has nothing left to do, all subscriptions of a program that is where it is are over. -/
theorem IsAt.all_isOver (hp : p.IsAt run) (hs : p.service.Orderly) (hdone : run.isDone = true) :
    p.service.entries.all p.service.isOver = true := by
  simp only [Run.isDone, Bool.and_eq_true, decide_eq_true_eq, Feed.Roster.isClosed,
    List.all_eq_true] at hdone
  refine List.all_eq_true.mpr fun n hn => ?_
  obtain ⟨f, hf⟩ := Feed.Service.exists_follower? (hs.lt_of_mem_entries hn)
  have hmem : f ∈ p.service.roster.followers := List.mem_filterMap.mpr ⟨n, hn, hf⟩
  rw [hp.roster_eq] at hmem
  rw [Feed.Service.isOver, hf, Option.any_some]
  exact ((hs.closed_iff hf).mp (hdone.2 f hmem)).1

/-- What a program does to leave as a run is finished. -/
theorem exists_left (h : Reached listener base policy before p) (hp : p.IsAt run)
    (hexit : run.exit = none) (interrupted : Bool)
    (hwhy : interrupted = false → run.isDone = true) :
    ∃ move q written, (move.isInterrupt = true → interrupted = true) ∧
      machine p move = some (q, written) ∧ q.doing.isEnding = true := by
  obtain ⟨server, hserving⟩ := hp.serving hexit
  cases interrupted with
  | true =>
    obtain ⟨q, written, hstep, hending⟩ := exists_interrupt h hserving (.refl _)
    exact ⟨_, q, written, fun _ => rfl, hstep, hending⟩
  | false =>
    have hdone := hwhy rfl
    have hwatch : p.task ≠ .relay := by
      simp only [Run.isDone, Bool.and_eq_true, decide_eq_true_eq] at hdone
      rw [hp.task_eq, hdone.1]
      intro h
      cases h
    have hnone : server = none := by
      rw [task, h.listener_eq, Ne, taskOf_eq_relay, ← (h.of_serving hserving).2] at hwatch
      simpa using hwatch
    subst hnone
    obtain ⟨q, written, hstep, hending⟩ :=
      exists_allClosed h hserving (hp.all_isOver h.orderly hdone) (.refl _)
    exact ⟨.allClosed _, q, written, fun h => (by cases h), hstep, hending⟩

/-- Where a run is finished, a program can get that leaves for the same reason. -/
theorem exists_finished (h : Reached listener base policy before p) (hp : p.IsAt run)
    (hexit : run.exit = none) (interrupted : Bool)
    (hwhy : interrupted = false → run.isDone = true) :
    ∃ moves q written, (∀ move ∈ moves, move.isInterrupt = true → interrupted = true) ∧
      machine.run p moves = some (q, written) ∧ q.IsAt (run.finish interrupted) := by
  obtain ⟨move, q, first, hmove, hstep, hending⟩ := exists_left h hp hexit interrupted hwhy
  have hgo := machine.run_singleton.mpr hstep
  obtain ⟨own, r, later, -, hown, hreturned⟩ := exists_returned (h.run hgo) hending
  have hall := machine.run_append hgo hown
  have hr := h.run hall
  have hroster : r.service.roster = { p.service.roster with followers := [] } := by
    rw [hr.roster_of_returned hreturned, Feed.Service.roster, Feed.Service.roster, h.settings.1,
      h.settings.2, hr.settings.1, hr.settings.2]
  refine ⟨_, r, _, fun move hmem => ?_, hall, ⟨?_, ?_, fun hnone => ?_, fun code hcode => ?_⟩⟩
  · rcases List.mem_append.mp hmem with hmem | hmem
    · rw [List.mem_singleton.mp hmem]
      exact hmove
    · obtain ⟨inner, -, rfl⟩ := List.mem_map.mp hmem
      intro h
      cases h
  · rw [task, hr.listener_eq, ← h.listener_eq]
    exact hp.task_eq
  · rw [hroster, hp.roster_eq]
    rfl
  · cases hnone
  · exact ⟨(Option.some.inj hcode).symm, hreturned⟩

/-- A program that is where a run is can get to where the run gets. It is interrupted only if the
run is. -/
theorem exists_gone (h : Reached listener base policy before p) (hp : p.IsAt run)
    (network : Feed.Connect) (interrupt : Run → Bool) (fuel : Nat) :
    ∃ moves q written,
      (∀ move ∈ moves, move.isInterrupt = true → ∃ earlier, interrupt earlier = true) ∧
      machine.run p moves = some (q, written) ∧ q.IsAt (Run.go network interrupt fuel run) := by
  induction fuel generalizing p run before with
  | zero => exact ⟨[], p, [], by simp, rfl, hp⟩
  | succ fuel ih =>
    cases hexit : run.exit with
    | some code =>
      rw [Run.go_of_exit (by rw [hexit]; rfl)]
      exact ⟨[], p, [], by simp, rfl, hp⟩
    | none =>
      cases hend : run.shouldEnd interrupt with
      | true =>
        rw [Run.go_of_shouldEnd hexit hend]
        obtain ⟨moves, q, written, hmoves, hrun, hq⟩ :=
          exists_finished h hp hexit (!run.isDone) (by simp)
        refine ⟨moves, q, written, fun move hmem hmove => ⟨run, ?_⟩, hrun, hq⟩
        have hgoing : run.isDone = false := by simpa using hmoves move hmem hmove
        rwa [Run.shouldEnd, hgoing, Bool.false_or] at hend
      | false =>
        rw [Run.go_of_tick hexit hend]
        cases htick : run.clock.tick network with
        | none => exact ⟨[], p, [], by simp, rfl, hp⟩
        | some clock =>
          obtain ⟨inner, q, first, hpassed, hq⟩ := exists_passed h hp htick
          obtain ⟨later, r, more, hlater, hrun, hr⟩ := ih (h.run hpassed) hq
          refine ⟨_, r, _, List.forall_mem_append.mpr ⟨?_, hlater⟩,
            machine.run_append hpassed hrun, hr⟩
          exact List.forall_mem_map.mpr fun _ _ h => by cases h

end Program

end FeedRelay.CommandLine
