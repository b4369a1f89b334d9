import FeedRelay.Proofs.Feed.ReaderTask

/-!
# The stream of events of a subscription

What the owner of a subscription can rely on, in whatever order signals arrive, the task of the
reader makes its steps, and the owner asks for the close, takes events or drops the subscription.
The invariants of the task (`ReaderTask.reached_of_run`) say what has been emitted and taken at any
moment. What the task cannot take back is in its steps (`ReaderTask.Change.closed`), and that it
ends is in how many of them it has left (`ReaderTask.stepsLeft`).

## Main results

* `ReaderTask.event_stream`: what the reader emits and why, what the owner gets of it, when the
  state changes, and that the task ends.
-/

namespace FeedRelay.Feed.ReaderTask

variable {topic : Topic} {url : Url} {t u : ReaderTask} {move : Move} {moves : List Move}
  {notes more : List Note}

/-! ### How the task goes on -/

/-- What has closed stays closed. -/
theorem Change.closed (hstep : Change t move u more) (h : t.subscription.state = .closed) :
    u.subscription.state = .closed := by
  cases hstep with
  | emit hstage hunread hending hmessage => exact (t.reader.react_going hending).2.trans h
  | settle hstage => rfl
  | _ => exact h

/-- How many steps a task can make before it ends, if nothing more arrives. -/
def stepsLeft (t : ReaderTask) : Nat :=
  t.unread.length + t.stage.stepsLeft

/-- Every step of the task brings it nearer to its end. -/
theorem Change.stepsLeft_lt (hstep : Change t move u more) (hown : move.isOwn = true) :
    u.stepsLeft < t.stepsLeft := by
  cases hstep with
  | leave hstage hunread hending =>
    simp only [stepsLeft, hstage, hunread, Stage.stepsLeft, List.length_cons]
    omega
  | skip hstage hunread hending hmessage =>
    simp only [stepsLeft, hunread, List.length_cons]
    omega
  | emit hstage hunread hending hmessage =>
    simp only [stepsLeft, goOn, hstage, hunread, List.length_cons]
    split <;> simp only [Stage.stepsLeft] <;> omega
  | heed hstage hclosing => simp [stepsLeft, hstage, Stage.stepsLeft]
  | part hstage => simp [stepsLeft, goOn, hstage, Stage.stepsLeft]
  | settle hstage => simp [stepsLeft, goOn, hstage, Stage.stepsLeft]
  | announce hstage => simp [stepsLeft, goOn, hstage, Stage.stepsLeft]
  | _ => cases hown

/-- A task that can make no step has ended, or is in its loop with nothing to take and was not asked
to leave. -/
theorem ended_or_waiting (h : ∀ move, move.isOwn = true → machine t move = none) :
    (∃ reason, t.stage = .ended reason) ∨
      t.stage = .reading ∧ t.unread = [] ∧ t.subscription.closing = false := by
  have hproceed : t.proceed = none := h .proceed rfl
  cases hstage : t.stage with
  | ended reason => exact .inl ⟨reason, rfl⟩
  | reading =>
    have hread : t.read = none := by simpa [machine, hstage] using h .read rfl
    have hheed : t.subscription.closing = false := by simpa [machine, hstage] using h .heed rfl
    refine .inr ⟨rfl, ?_, hheed⟩
    cases hunread : t.unread with
    | nil => rfl
    | cons signal unread =>
      rw [read, hunread] at hread
      dsimp only at hread
      split at hread <;> cases hread
  | _ => simp [proceed, hstage] at hproceed

theorem closed_of_run (h : machine.run t moves = some (u, notes))
    (hclosed : t.subscription.state = .closed) : u.subscription.state = .closed :=
  Machine.run_induction (motive := fun _ u _ => u.subscription.state = .closed) hclosed
    (fun _ ht hstep => (change_of_machine hstep).closed ht) h

/-- The steps that a task makes are at most those that it had left. -/
theorem length_le_of_run (h : machine.run t moves = some (u, notes))
    (hown : ∀ move ∈ moves, move.isOwn = true) : moves.length + u.stepsLeft ≤ t.stepsLeft := by
  refine Machine.run_induction
    (motive := fun moves u _ => (∀ move ∈ moves, move.isOwn = true) →
      moves.length + u.stepsLeft ≤ t.stepsLeft) (fun _ => by simp) ?_ h hown
  intro moves u notes move v more _ hu hstep hown
  have hlt := (change_of_machine hstep).stepsLeft_lt (hown move (by simp))
  have hle := hu fun move hmem => hown move (List.mem_append_left _ hmem)
  rw [List.length_append, List.length_singleton]
  omega

/-! ### The stream of events -/

/-- What it takes for a task that took signals to have ended for a reason: a close that was asked
for is followed by a close frame, and any other reason lies in the last signal that was taken, and
nothing that arrived before that signal was left out. -/
structure EndedFor (moves : List Move) (notes : List Note) (reason : CloseReason) : Prop where
  asked : reason = .requested → Asked moves
  closeFrames : notes.count .closeFrame = if reason = .requested then 1 else 0
  said : ∀ why, reason = .remote (some why) → why ≠ "" ∧
    ∃ code, (takenOf notes).getLast? = some (.frame (.close (some ⟨code, why⟩)))
  silent : reason = .remote none → (takenOf notes).getLast? = some .ended ∨
    ∃ body : Option CloseBody, (takenOf notes).getLast? = some (.frame (.close body)) ∧
      ∀ b ∈ body, b.reason = ""
  broken : ∀ fault, reason = .broken fault → (takenOf notes).getLast? = some (.fault fault)
  complete : reason ≠ .requested → endOf (arrivalsOf moves) = some reason ∧
    dataOf (arrivalsOf moves) = (takenOf notes).filterMap Signal.data?

theorem Reached.endedFor (h : Reached topic moves t notes) {reason : CloseReason}
    (hstage : t.stage = .ended reason) : EndedFor moves notes reason := by
  have hframes : notes.count .closeFrame = if some reason = some .requested then 1 else 0 := by
    have hframes := h.closeFrames
    rwa [hstage] at hframes
  simp only [Option.some.injEq] at hframes
  have hleft : Left (Asked moves) (takenOf notes) (some reason) := by
    have hleft := h.left
    rwa [hstage] at hleft
  cases hleft with
  | asked hasked htaken =>
    exact ⟨fun _ => hasked, hframes, by simp, by simp, by simp, fun hne => absurd rfl hne⟩
  | @ended before signal reason htaken hbefore hending hreason =>
    have hlast : (takenOf notes).getLast? = some signal := by rw [htaken, List.getLast?_concat]
    have harrivals : arrivalsOf moves = before ++ signal :: t.unread := by
      rw [h.arrivals_eq, htaken, List.append_assoc, List.singleton_append]
    refine ⟨fun hrequested => absurd hrequested hreason, hframes, ?said, ?silent, ?broken,
      fun _ => ?complete⟩
    case said =>
      rintro why rfl
      obtain ⟨hwhy, code, rfl⟩ := Signal.of_ending?_said hending
      exact ⟨hwhy, code, hlast⟩
    case silent =>
      rintro rfl
      rw [hlast]
      exact (Signal.of_ending?_silent hending).imp (congrArg some) fun ⟨body, hsignal, hempty⟩ =>
        ⟨body, congrArg some hsignal, hempty⟩
    case broken =>
      rintro fault rfl
      rw [hlast, Signal.of_ending?_broken hending]
    case complete =>
      constructor
      · rw [harrivals, endOf_append hbefore, endOf_cons_of_ending hending]
      · rw [harrivals, dataOf_append hbefore, dataOf_cons_of_ending hending, htaken,
          List.filterMap_append, List.filterMap_cons_none (Signal.data?_of_ending hending)]
        rfl

/-- What has been announced comes after the change of the state. -/
theorem Reached.state_of_emitted (h : Reached topic moves t notes) {reason : CloseReason}
    (hmem : .closed reason ∈ emittedOf notes) : t.subscription.state = .closed := by
  rw [h.emitted_eq, List.mem_append] at hmem
  rw [h.state_eq]
  rcases hmem with hmem | hmem
  · simp at hmem
  · cases hstage : t.stage with
    | ended reason => rfl
    | _ =>
      rw [hstage] at hmem
      cases hmem

/-- A task that goes on by itself until it cannot has ended, unless nothing that arrived ends the
connection and the owner has not asked. -/
theorem ended_of_own {later : List Move} (h : machine.run (start topic url) moves = some (t, notes))
    (hlater : machine.run t later = some (u, more))
    (hstuck : ∀ move, move.isOwn = true → machine u move = none) :
    u.stage.announced?.isSome = true ∨ endOf (arrivalsOf moves) = none ∧ ¬Asked moves := by
  obtain ⟨hheard, hreached, -⟩ := reached_of_run (machine.run_append h hlater)
  rcases ended_or_waiting hstuck with ⟨reason, hstage⟩ | ⟨hstage, hunread, hclosing⟩
  · exact .inl (by rw [hstage]; rfl)
  · have hend : endOf (arrivalsOf (moves ++ later)) = none := by
      rw [hreached.arrivals_eq, hunread, List.append_nil]
      exact (hreached.of_reading hstage).1
    rw [arrivalsOf_append] at hend
    refine .inr ⟨endOf_of_append hend, fun hasked => ?_⟩
    have hasked := hheard.closing_iff.mpr (asked_append.mpr (.inl hasked))
    rw [hclosing] at hasked
    cases hasked

/-- For every order in which signals arrive, the owner asks for the close, takes events or drops the
subscription, and the task makes its steps:

* the stream opens; then come, as messages with the key of the topic, the data frames that the task
  took, in order and unchanged; and last, if the task has ended, that it closed;
* the signals were taken in the order in which they arrived, and the reason of the close is the
  right one (`EndedFor`);
* the owner got the stream from its beginning on, as far as it is not kept for it (`Served`), and is
  told that there are no more when nothing is left of a task that has ended;
* the state was streaming at first, has closed once the close is announced, and then stays closed;
* the task makes only so many steps by itself, and has ended then, unless nothing that arrived ends
  the connection and the owner has not asked. -/
theorem event_stream (h : machine.run (start topic url) moves = some (t, notes)) :
    (∃ messages : List Message,
      (start topic url).reader.events ++ emittedOf notes =
        .opened :: messages.map .message ++ closings t.stage.announced? ∧
      messages.map Message.toFrame = (takenOf notes).filterMap Signal.data? ∧
      ∀ message ∈ messages, message.topic = topic.displayKey) ∧
    takenOf notes ++ t.unread = arrivalsOf moves ∧
    (∀ reason, t.stage = .ended reason → EndedFor moves notes reason) ∧
    Served t notes ∧
    (t.owned = true → t.stage.announced?.isSome = true → t.reader.events = [] →
      machine t .next = some (t, [.finished])) ∧
    (start topic url).subscription.state = .streaming ∧
    (t.subscription.state = .streaming ∨ t.subscription.state = .closed) ∧
    (∀ reason, .closed reason ∈ emittedOf notes → t.subscription.state = .closed) ∧
    (∀ later u more, machine.run t later = some (u, more) → t.subscription.state = .closed →
      u.subscription.state = .closed) ∧
    (∀ later u more, machine.run t later = some (u, more) →
      (∀ move ∈ later, move.isOwn = true) → later.length ≤ t.unread.length + 4 ∧
        ((∀ move, move.isOwn = true → machine u move = none) →
          u.stage.announced?.isSome = true ∨ endOf (arrivalsOf moves) = none ∧ ¬Asked moves)) := by
  obtain ⟨hheard, hreached, hserved⟩ := reached_of_run h
  refine ⟨⟨(takenOf notes).filterMap (Signal.message? topic.displayKey), ?emitted,
      map_toFrame_filterMap_message? _ _, ?topics⟩, hreached.arrivals_eq.symm,
    fun _ hstage => hreached.endedFor hstage, hserved, ?finished, rfl, ?states,
    fun _ hmem => hreached.state_of_emitted hmem,
    fun _ _ _ hrun hclosed => closed_of_run hrun hclosed, ?progress⟩
  case emitted =>
    rw [hreached.emitted_eq]
    rfl
  case topics =>
    intro message hmem
    obtain ⟨signal, -, hmessage⟩ := List.mem_filterMap.mp hmem
    exact topic_of_message? hmessage
  case finished =>
    intro howned hstage hevents
    have hclosed : t.subscription.reader.state = .closed := by
      refine hreached.state_eq.trans (if_pos ?_)
      cases hs : t.stage <;> simp_all [Stage.announced?, Stage.settled?]
    have hevents : t.subscription.reader.events = [] := hevents
    simp [machine, howned, next, Subscription.nextEvent, hevents, hclosed, hstage]
  case states =>
    rw [hreached.state_eq]
    exact (ite_eq_or_eq _ _ _).symm
  case progress =>
    intro later u more hlater hown
    have hle := length_le_of_run hlater hown
    have hstage : t.stage.stepsLeft ≤ 4 := by cases t.stage <;> simp [Stage.stepsLeft]
    refine ⟨?_, ended_of_own h hlater⟩
    simp only [stepsLeft] at hle
    omega

/-- A subscription whose owner asks for the close while a frame has not been read. The reader takes
the frame before it sees the request, and leaves what comes then. -/
def farewell : List Move :=
  [.arrive (.frame (.binary [1])), .arrive (.frame (.ping [])), .read, .next, .close,
    .arrive (.frame (.binary [2])), .read, .read, .arrive (.frame (.binary [3])), .heed, .proceed,
    .next, .proceed, .proceed, .next, .next, .next]

/-- The owner gets both messages that were read and the close it asked for, and the state has
closed. -/
theorem stream_of_farewell :
    ∃ t notes, machine.run (start ⟨"a", none, none, []⟩ Topic.belowSlashed)
        farewell = some (t, notes) ∧
      gotOf notes = [.opened, .message ⟨"a", .binary [1]⟩, .message ⟨"a", .binary [2]⟩,
        .closed .requested] ∧
      .finished ∈ notes ∧ t.subscription.state = .closed ∧
      takenOf notes ++ t.unread = arrivalsOf farewell ∧ EndedFor farewell notes .requested := by
  have hrun : (machine.run (start ⟨"a", none, none, []⟩
      Topic.belowSlashed) farewell).map
        (fun (t, notes) =>
          (gotOf notes, decide (.finished ∈ notes), t.subscription.state, t.stage)) =
      some ([.opened, .message ⟨"a", .binary [1]⟩, .message ⟨"a", .binary [2]⟩,
        .closed .requested], true, .closed, .ended .requested) := by
    decide +kernel
  obtain ⟨⟨t, notes⟩, hrun, hseen⟩ := Option.map_eq_some_iff.mp hrun
  simp only [Prod.mk.injEq, decide_eq_true_eq] at hseen
  obtain ⟨hgot, hover, hstate, hstage⟩ := hseen
  obtain ⟨-, htaken, hended, -⟩ := event_stream hrun
  exact ⟨t, notes, hrun, hgot, hover, hstate, htaken, hended _ hstage⟩

end FeedRelay.Feed.ReaderTask
