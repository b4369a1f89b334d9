import FeedRelay.Proofs.CommandLine.Course
import FeedRelay.Proofs.Outcome

/-!
# What a program can fail of

A program begins with what it can find out without its service: the address of the service, the
topics and, if it relays, where it listens (`Plan`). This may fail, and then the program ends
before it has made an attempt to connect: what it ends with does not depend on the network. If it
does not fail, the program subscribes, and its way is that of `Program.machine`.

## Main results

* `fails_planOf_iff`: the beginning fails just if an address or a topic cannot be read, or the
  program cannot listen.
* `Plan.exists_subscribed`: without interruptions, the subscriptions lead where those of the clock
  lead with which a run begins.
* `Plan.exists_begun`, `Plan.exists_reached`: a program can come to be where a run begins, and get
  to where the run gets.
* `EndsWell.go`: a run that has begun ends with success.
* `only_startup_fails`: a program fails at its beginning or not at all.
-/

namespace FeedRelay.CommandLine

/-- What a program has found out at its beginning: where it listens if it relays, the address of
its service, and its topics. -/
structure Plan where
  listener : Option Address.Socket
  base : Url
  topics : List Topic

/-- The beginning of a program that relays. -/
def relayPlan (listen : String → Except Network.Fault Address.Socket) (settings : Settings) :
    Except Failure Plan := do
  let base ← settings.baseUrl
  let topics ← Settings.toTopics settings.topics
  let address := settings.server.address
  let socket ← (listen address).mapError (.listen address)
  return { listener := some socket, base, topics }

/-- The address of the service for a program that watches. -/
def watchedBase (settings : Settings) (url : Option String) : Except Failure Url :=
  match url with
  | some text => (Url.parse text).mapError .malformedAddress
  | none => settings.baseUrl

/-- The beginning of a program that watches. -/
def watchPlan (settings : Settings) (url : Option String) (topics : List String) :
    Except Failure Plan := do
  let base ← watchedBase settings url
  let topics ← (topics.mapM Topic.parse).mapError .invalidTopic
  return { listener := none, base, topics }

/-- The beginning of a program with a command. -/
def planOf (listen : String → Except Network.Fault Address.Socket) (settings : Settings) :
    Command → Except Failure Plan
  | .relay => relayPlan listen settings
  | .watch url topics => watchPlan settings url topics

/-- Whether something that a command needs at its beginning cannot be had. -/
def CannotBegin (listen : String → Except Network.Fault Address.Socket) (settings : Settings) :
    Command → Prop
  | .relay => Fails (Url.parse settings.serviceAddress) ∨
      (∃ entry ∈ settings.topics, Fails entry.toTopic) ∨ Fails (listen settings.server.address)
  | .watch url topics => Fails (Url.parse (url.getD settings.serviceAddress)) ∨
      ∃ text ∈ topics, Fails (Topic.parse text)

section Beginning

variable {listen : String → Except Network.Fault Address.Socket} {settings : Settings}
  {command : Command} {plan : Plan}

/-- The beginning of a program fails just if something that it needs cannot be had. -/
theorem fails_planOf_iff :
    Fails (planOf listen settings command) ↔ CannotBegin listen settings command := by
  cases command with
  | relay =>
    have htopics : Fails (Settings.toTopics settings.topics) ↔
        ∃ entry ∈ settings.topics, Fails entry.toTopic :=
      fails_mapError_iff.trans fails_mapM_iff
    refine (fails_bind_iff fun base => fails_bind_iff fun topics => fails_bind_iff fun socket =>
      iff_false_intro (not_fails_ok _)).trans ?_
    rw [Settings.baseUrl, fails_mapError_iff, htopics, or_false, fails_mapError_iff]
    rfl
  | watch url topics =>
    have hbase : Fails (watchedBase settings url) ↔
        Fails (Url.parse (url.getD settings.serviceAddress)) := by
      cases url <;> exact fails_mapError_iff
    refine (fails_bind_iff fun base => fails_bind_iff fun _ =>
      iff_false_intro (not_fails_ok _)).trans ?_
    rw [hbase, or_false, fails_mapError_iff, fails_mapM_iff]
    rfl

/-- A plan has a place to listen just if the command is to relay. -/
theorem taskOf_planOf (h : planOf listen settings command = .ok plan) :
    taskOf plan.listener = .relay ↔ command = .relay := by
  cases command with
  | relay =>
    obtain ⟨base, -, h⟩ := exists_of_bind_eq_ok h
    obtain ⟨topics, -, h⟩ := exists_of_bind_eq_ok h
    obtain ⟨socket, -, h⟩ := exists_of_bind_eq_ok h
    cases h
    exact iff_of_true rfl rfl
  | watch url topics =>
    obtain ⟨base, -, h⟩ := exists_of_bind_eq_ok h
    obtain ⟨topics, -, h⟩ := exists_of_bind_eq_ok h
    cases h
    exact iff_of_false nofun nofun

end Beginning

/-! ### The subscriptions of a run -/

/-- Subscribe to a topic on a clock, and log what comes of it. -/
def subscribeTo (task : Task) (network : Feed.Connect) (c : Feed.Clock) (topic : Topic) :
    Feed.Clock :=
  let (result, c) := c.subscribe network topic
  (announcement task topic result).foldl .log c

theorem relayTopic_eq : Run.relayTopic = subscribeTo .relay := by
  funext network c topic
  unfold Run.relayTopic subscribeTo
  rcases c.subscribe network topic with ⟨result, c⟩
  cases result <;> rfl

theorem watchTopic_eq : Run.watchTopic = subscribeTo .watch := by
  funext network c topic
  unfold Run.watchTopic subscribeTo
  rcases c.subscribe network topic with ⟨result, c⟩
  cases result <;> rfl

theorem roster_foldl_log (lines : List Log.Line) (c : Feed.Clock) :
    (lines.foldl .log c).roster = c.roster := by
  induction lines generalizing c with
  | nil => rfl
  | cons line rest ih => exact ih _

theorem roster_subscribeTo (task : Task) (network : Feed.Connect) (c : Feed.Clock)
    (topic : Topic) :
    (subscribeTo task network c topic).roster = (c.roster.subscribe network topic).roster := by
  rw [subscribeTo, roster_foldl_log, Feed.Clock.subscribe]
  split
  · rename_i state hstate
    rw [Feed.Clock.schedule]
    split <;> rfl
  · rfl

/-- The clock with which a run begins, when it has subscribed to its topics. -/
def Plan.clock (plan : Plan) (network : Feed.Connect) (settings : Settings) : Feed.Clock :=
  (Acceptor.start plan.listener).log.foldl .log
    (plan.topics.foldl (subscribeTo (taskOf plan.listener) network)
      (Run.freshClock settings plan.base))

/-- The program with a plan, when it has not subscribed to anything. -/
def Plan.program (plan : Plan) (settings : Settings) : Program :=
  .start plan.listener plan.base settings.reconnect.policy plan.topics

section Subscriptions

variable {s : Surroundings} {settings : Settings} {plan : Plan}

theorem beginRelay_eq (s : Surroundings) (settings : Settings) :
    Run.beginRelay s settings =
      (relayPlan s.listen settings).map fun plan => plan.clock s.connect settings := by
  unfold Run.beginRelay relayPlan
  rw [relayTopic_eq]
  cases settings.baseUrl with
  | error failure => rfl
  | ok base =>
    cases Settings.toTopics settings.topics with
    | error failure => rfl
    | ok topics =>
      change (Except.mapError _ (s.listen settings.server.address) >>= _) =
        Except.map _ (Except.mapError _ (s.listen settings.server.address) >>= _)
      cases s.listen settings.server.address <;> rfl

theorem beginWatch_eq (s : Surroundings) (settings : Settings) (url : Option String)
    (topics : List String) :
    Run.beginWatch s settings url topics =
      (watchPlan settings url topics).map fun plan => plan.clock s.connect settings := by
  unfold Run.beginWatch watchPlan watchedBase
  rw [watchTopic_eq]
  cases url with
  | none =>
    cases settings.baseUrl with
    | error failure => rfl
    | ok base =>
      change (Except.mapError _ (topics.mapM Topic.parse) >>= _) =
        Except.map _ (Except.mapError _ (topics.mapM Topic.parse) >>= _)
      cases topics.mapM Topic.parse <;> rfl
  | some text =>
    change (Except.mapError _ (Url.parse text) >>= _) =
      Except.map _ (Except.mapError _ (Url.parse text) >>= _)
    cases Url.parse text with
    | error fault => rfl
    | ok base =>
      change (Except.mapError _ (topics.mapM Topic.parse) >>= _) =
        Except.map _ (Except.mapError _ (topics.mapM Topic.parse) >>= _)
      cases topics.mapM Topic.parse <;> rfl

/-- A run begins with what there is without the network, and goes on if that has not failed. -/
theorem beginWith_eq (s : Surroundings) (filter : Log.Filter) (settings : Settings)
    (command : Command) :
    Run.beginWith s filter settings command =
      match planOf s.listen settings command with
      | .ok plan => .running (Run.ofCommand filter command (plan.clock s.connect settings))
      | .error failure => Run.failing filter ("subrelay failed: " ++ failure.message) := by
  cases command with
  | relay =>
    simp only [Run.beginWith, beginRelay_eq, planOf]
    cases relayPlan s.listen settings <;> rfl
  | watch url topics =>
    simp only [Run.beginWith, beginWatch_eq, planOf]
    cases watchPlan settings url topics <;> rfl

/-- Without interruptions, the program subscribes as the clock does with which a run begins. -/
theorem Plan.exists_subscribed (plan : Plan) (settings : Settings) (network : Feed.Connect) :
    ∃ moves p written, (∀ move ∈ moves, move.IsOwn network) ∧
      Program.machine.run (plan.program settings) moves = some (p, written) ∧
      p.doing = .subscribing [] ∧ p.service.roster = (plan.clock network settings).roster := by
  have hroster (c : Feed.Clock) : (plan.topics.foldl
      (subscribeTo (taskOf plan.listener) network) c).roster =
        plan.topics.foldl (fun roster topic => (roster.subscribe network topic).roster)
          c.roster := by
    generalize plan.topics = topics
    induction topics generalizing c with
    | nil => rfl
    | cons topic rest ih =>
      rw [List.foldl_cons, ih, roster_subscribeTo]
      rfl
  have hstart :=
    Program.reached_start plan.listener plan.base settings.reconnect.policy plan.topics
  obtain ⟨moves, p, written, hown, hrun, hdoing, hp⟩ :=
    Program.run_subscribing hstart rfl network
  refine ⟨moves, p, written, hown, hrun, hdoing, hp.trans ?_⟩
  rw [Plan.clock, roster_foldl_log, hroster]
  rfl

/-- A program with a plan can come to be where a run begins, by its own moves. -/
theorem Plan.exists_begun {listen : String → Except Network.Fault Address.Socket}
    {command : Command} (hplan : planOf listen settings command = .ok plan)
    (filter : Log.Filter) (network : Feed.Connect) :
    ∃ moves p written, (∀ move ∈ moves, move.IsOwn network) ∧
      Program.machine.run (plan.program settings) moves = some (p, written) ∧
      p.IsAt (Run.ofCommand filter command (plan.clock network settings)) := by
  obtain ⟨moves, p, written, hown, hrun, hdoing, hroster⟩ :=
    plan.exists_subscribed settings network
  have hp := (Program.reached_start plan.listener plan.base settings.reconnect.policy
    plan.topics).run hrun
  obtain ⟨q, first, hstep, hq⟩ := p.exists_served hdoing hp.orderly filter command
    (by rw [Program.task, hp.listener_eq]; exact taskOf_planOf hplan) hroster
  refine ⟨_, q, _, List.forall_mem_append.mpr ⟨hown, ?_⟩,
    Program.machine.run_append hrun (Program.machine.run_singleton.mpr hstep), hq⟩
  exact List.forall_mem_singleton.mpr trivial

/-- Wherever a run gets to, a program with its plan can get from its start. -/
theorem Plan.exists_reached {listen : String → Except Network.Fault Address.Socket}
    {command : Command} (hplan : planOf listen settings command = .ok plan)
    (filter : Log.Filter) (network : Feed.Connect) (interrupt : Run → Bool) (fuel : Nat) :
    ∃ moves p written, Program.machine.run (plan.program settings) moves = some (p, written) ∧
      p.IsAt (Run.go network interrupt fuel
        (Run.ofCommand filter command (plan.clock network settings))) ∧
      ∀ move ∈ moves, move.isInterrupt = true → ∃ earlier, interrupt earlier = true := by
  obtain ⟨moves, p, written, hown, hrun, hp⟩ := Plan.exists_begun hplan filter network
  have hreached := (Program.reached_start plan.listener plan.base settings.reconnect.policy
    plan.topics).run hrun
  obtain ⟨later, q, more, hlater, hgo, hq⟩ :=
    Program.exists_gone hreached hp network interrupt fuel
  refine ⟨_, q, _, Program.machine.run_append hrun hgo, hq, fun move hmem hmove => ?_⟩
  rcases List.mem_append.mp hmem with hmem | hmem
  · cases move with
    | interrupt => exact (hown _ hmem).elim
    | _ => cases hmove
  · exact hlater move hmem hmove

end Subscriptions

/-! ### The end of a run -/

/-- A run that is over has come to it well: its exit code is that of success, it follows nothing any
more, and if it relays, an interrupt has come. -/
def EndsWell (interrupt : Run → Bool) (run : Run) : Prop :=
  ∀ code, run.exit = some code → code = 0 ∧ run.clock.roster.followers = [] ∧
    (run.task = .relay → ∃ earlier, interrupt earlier = true)

section Ends

variable {interrupt : Run → Bool} {run : Run}

theorem endsWell_ofCommand (filter : Log.Filter) (command : Command) (c : Feed.Clock) :
    EndsWell interrupt (Run.ofCommand filter command c) := by
  intro code hexit
  cases command with
  | relay => cases hexit
  | watch url topics =>
    simp only [Run.ofCommand] at hexit ⊢
    split at hexit
    · rename_i hempty
      rw [if_pos hempty]
      refine ⟨(Option.some.inj hexit).symm, List.isEmpty_iff.mp hempty, fun htask => ?_⟩
      cases htask
    · cases hexit

theorem endsWell_finish (interrupted : Bool)
    (hwhy : run.task = .relay → ∃ earlier, interrupt earlier = true) :
    EndsWell interrupt (run.finish interrupted) :=
  fun _ hexit => ⟨(Option.some.inj hexit).symm, rfl, hwhy⟩

/-- A run that goes on comes to its end well, if it does. -/
theorem EndsWell.go (h : EndsWell interrupt run) (network : Feed.Connect) (fuel : Nat) :
    EndsWell interrupt (Run.go network interrupt fuel run) := by
  induction fuel generalizing run with
  | zero => exact h
  | succ fuel ih =>
    unfold Run.go
    split
    · exact h
    · rename_i hgoing
      split
      · rename_i hdone
        have htask : run.task = .watch := by
          simp only [Run.isDone, Bool.and_eq_true, decide_eq_true_eq] at hdone
          exact hdone.1
        exact endsWell_finish false (by simp [htask])
      · split
        · rename_i hinterrupt
          exact endsWell_finish true fun _ => ⟨run, hinterrupt⟩
        · split
          · refine ih fun code hexit => absurd ?_ hgoing
            exact Option.isSome_iff_exists.mpr ⟨code, hexit⟩
          · exact h

end Ends

/-- **A program fails at its beginning or not at all.** If the address of the service cannot be
read, or a topic, or if a program that relays cannot listen, then the program fails, and with the
same words whatever the network would answer, since it has not made an attempt to connect. If all of
this can be had, the program begins to run, and its exit code will be that of success. Whatever its
subscriptions come to and whatever services, listeners and clients do, it does not fail any more.
One that relays leaves only after an interrupt, and in its end all subscriptions are torn down. The
run that begins goes on until it has a reason to end, and the program can keep up with it. -/
theorem only_startup_fails (s : Surroundings) (filter : Log.Filter) (settings : Settings)
    (command : Command) :
    (CannotBegin s.listen settings command →
      ∃ failure, planOf s.listen settings command = .error failure ∧
        ∀ network, Run.beginWith { s with connect := network } filter settings command =
          Run.failing filter ("subrelay failed: " ++ failure.message)) ∧
    (¬CannotBegin s.listen settings command →
      ∃ plan, planOf s.listen settings command = .ok plan ∧
        (∀ network, ∃ run,
          Run.beginWith { s with connect := network } filter settings command = .running run ∧
          ∀ interrupt, run.Course network interrupt ∧ ∀ fuel,
            EndsWell interrupt (Run.go network interrupt fuel run) ∧
            ∃ moves p written,
              Program.machine.run (plan.program settings) moves = some (p, written) ∧
              p.IsAt (Run.go network interrupt fuel run) ∧
              ∀ move ∈ moves, move.isInterrupt = true → ∃ earlier, interrupt earlier = true) ∧
        ∀ moves p written,
          Program.machine.run (plan.program settings) moves = some (p, written) →
          (p.task = .relay ↔ command = .relay) ∧ p.Endures moves) := by
  rw [← fails_planOf_iff]
  refine ⟨?_, fun hbegin => ?_⟩
  · rintro ⟨failure, hfailure⟩
    refine ⟨failure, hfailure, fun network => ?_⟩
    rw [beginWith_eq]
    simp only [hfailure]
  · obtain ⟨plan, hplan⟩ := exists_ok_of_not_fails hbegin
    refine ⟨plan, hplan, fun network => ?_, fun moves p written hrun => ?_⟩
    · rw [beginWith_eq]
      simp only [hplan]
      exact ⟨_, rfl, fun interrupt => ⟨Run.course network interrupt _, fun fuel =>
        ⟨(endsWell_ofCommand filter command _).go network fuel,
          Plan.exists_reached hplan filter network interrupt fuel⟩⟩⟩
    · have hp := (Program.reached_start plan.listener plan.base settings.reconnect.policy
        plan.topics).run hrun
      refine ⟨?_, Program.endures_of_run hrun⟩
      rw [Program.task, hp.listener_eq]
      exact taskOf_planOf hplan

/-- Settings with two topics to relay. -/
def twoFeeds : Settings :=
  { Settings.default with
    topics := [⟨"measurement", none, none, []⟩, ⟨"service", none, none, []⟩] }

/-- An address on which clients are awaited. -/
def home : Address.Socket :=
  ⟨.v4 (.ofBytes 127 0 0 1), 7171, 0⟩

/-- What happens to a program that relays two topics of which one cannot be had: a call to accept
fails, a client comes whose handshake fails, and in the end there is an interrupt. -/
def troubles : List Program.Move :=
  [.subscribe, .service (.connected fun _ => none),
    .subscribe, .service (.connected fun _ => some (.io .refused)), .serve,
    .accept (.fault .other "Too many open files (os error 24)"), .accept (.connection home),
    .connection 0 (.turnAway "Handshake not finished"), .interrupt [0],
    .service (.occur 0 .stop), .service (.occur 0 (.signal .stop)), .service (.occur 0 .event),
    .service (.occur 0 .event), .service .resume]

/-- Surroundings of a program that relays, in which listening comes out in one way. -/
def relaying (listened : Except Network.Fault Address.Socket) : Surroundings where
  words := ["relay"]
  environment := []
  files := []
  connect _ := none
  listen _ := listened

/-- A program that can listen goes through its troubles and returns with success after the
interrupt, and its run is finished at an interrupt. One that cannot listen fails at its
beginning. -/
theorem returned_of_troubles :
    (∃ plan p written, planOf (relaying (.ok home)).listen twoFeeds .relay = .ok plan ∧
      Program.machine.run (plan.program twoFeeds) troubles = some (p, written) ∧
      p.doing = .returned (.ok ()) ∧ p.service.entries = [] ∧
      (∀ n f, p.service.follower? n = some f → f.isOver = true) ∧
      ∃ order, .interrupt order ∈ troubles) ∧
    (∃ run, Run.beginWith (relaying (.ok home)) ⟨[]⟩ twoFeeds .relay = .running run ∧
      Run.go (fun _ => none) (fun _ => true) 1 run = run.finish true) ∧
    ∃ failure : Failure, ∀ network,
      Run.beginWith { relaying (.error .addressInUse) with connect := network } ⟨[]⟩ twoFeeds
        .relay = Run.failing ⟨[]⟩ ("subrelay failed: " ++ failure.message) := by
  have hreturns : (planOf (relaying (.ok home)).listen twoFeeds .relay).toOption.bind
      (fun plan => (Program.machine.run (plan.program twoFeeds) troubles).map fun next =>
        next.1.doing.outcome?.isSome) = some true := by
    decide +kernel
  obtain ⟨plan, hplan, hreturns⟩ := Option.bind_eq_some_iff.mp hreturns
  obtain ⟨⟨p, written⟩, hrun, hreturned⟩ := Option.map_eq_some_iff.mp hreturns
  have hplan : planOf (relaying (.ok home)).listen twoFeeds .relay = .ok plan := by
    revert hplan
    cases planOf (relaying (.ok home)).listen twoFeeds .relay with
    | error failure => nofun
    | ok other => exact fun h => congrArg _ (Option.some.inj h)
  obtain ⟨outcome, hdoing⟩ : ∃ outcome, p.doing = .returned outcome := by
    cases hdoing : p.doing with
    | returned outcome => exact ⟨outcome, rfl⟩
    | _ => simp [hdoing, Doing.outcome?] at hreturned
  have hbegins : ¬CannotBegin (relaying (.ok home)).listen twoFeeds .relay := by
    rw [← fails_planOf_iff, hplan]
    exact not_fails_ok plan
  obtain ⟨other, hother, hruns, hway⟩ :=
    (only_startup_fails (relaying (.ok home)) ⟨[]⟩ twoFeeds .relay).2 hbegins
  obtain rfl := Except.ok.inj (hplan.symm.trans hother)
  obtain ⟨run, hrunning, hcourse⟩ := hruns fun _ => none
  have hfirst : run = Run.ofCommand ⟨[]⟩ .relay (plan.clock (fun _ => none) twoFeeds) := by
    rw [beginWith_eq] at hrunning
    simp only [hplan] at hrunning
    exact (Begun.running.inj hrunning).symm
  have hexit : run.exit = none := by rw [hfirst]; rfl
  have hdone : run.isDone = false := by rw [hfirst]; rfl
  have hfinish := (hcourse fun _ => true).1.ends 0 run (.here hexit) (Bool.or_true _) 0
  rw [hdone] at hfinish
  obtain ⟨htask, hendures⟩ := hway troubles p written hrun
  obtain rfl := hendures.outcome outcome (.inr hdoing)
  obtain ⟨hentries, hover⟩ := hendures.tornDown _ hdoing
  obtain ⟨failure, -, hfails⟩ :=
    (only_startup_fails (relaying (.error .addressInUse)) ⟨[]⟩ twoFeeds .relay).1
      (.inr (.inr (fails_error _)))
  exact ⟨⟨plan, p, written, hplan, hrun, hdoing, hentries, hover,
    hendures.interrupted (htask.mpr rfl) (by rw [hdoing]; rfl)⟩, ⟨run, hrunning, hfinish⟩, failure,
    hfails⟩

end FeedRelay.CommandLine
