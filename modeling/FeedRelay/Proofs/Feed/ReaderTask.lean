import FeedRelay.Proofs.Feed.ReaderOutput
import FeedRelay.Proofs.Machine

/-!
# The task of a reader

A reader runs as a task of its own, between the connection and the owner of the subscription. While
it is in its loop it takes what arrived, first come first served, or sees that it was asked to
leave; the two may race. Once it is out of the loop it owes three things, one after another: a close
frame to the upstream if the close was asked for, the change of the state, and the last event. The
owner takes events, asks for the close, or drops the subscription, at any moment. A subscription
that was dropped keeps no events, and a reader that cannot hand on a message leaves its loop as if
it had been asked to.

The moves of the machine are those of the connection, of the owner and of the task, so a run is any
order in which they can come. The steps of the task together are what `Subscription.receive` does
in one (`ReaderTask.run_going`, `ReaderTask.run_ending`, `ReaderTask.run_stop`).

Three invariants hold after every run (`ReaderTask.reached_of_run`): whether the task was asked to
leave (`ReaderTask.Heard`), what it has taken and emitted (`ReaderTask.Reached`), and what of that
its owner has got (`ReaderTask.Served`).
-/

namespace FeedRelay.Feed

namespace Reader

/-- Close the connection from this side if the close was asked for. -/
def part (r : Reader) (reason : CloseReason) : Reader :=
  { r with sentClose := r.sentClose || reason == .requested }

/-- Change the state. -/
def settle (r : Reader) : Reader :=
  { r with state := .closed }

/-- Emit the last event. -/
def announce (r : Reader) (reason : CloseReason) : Reader :=
  { r with
    events := r.events ++ [.closed reason]
    log := r.log ++
      [Log.debug .connection s!"Subscription {r.key} closed: {reason.toText}"] }

/-- What a reader does when it closes, in its order. -/
theorem finish_eq (r : Reader) (reason : CloseReason) :
    r.finish reason = ((r.part reason).settle).announce reason := rfl

end Reader

/-- Where the task of a reader is: in its loop, out of it for a reason, past the close frame, past
the change of the state, or at its end. -/
inductive Stage where
  | reading
  | leaving (reason : CloseReason)
  | parting (reason : CloseReason)
  | settling (reason : CloseReason)
  | ended (reason : CloseReason)
  deriving DecidableEq

namespace Stage

/-- The reason for which the loop was left. -/
def left? : Stage → Option CloseReason
  | .reading => none
  | .leaving reason | .parting reason | .settling reason | .ended reason => some reason

/-- The reason for which a close frame was sent or not. -/
def parted? : Stage → Option CloseReason
  | .reading | .leaving _ => none
  | .parting reason | .settling reason | .ended reason => some reason

/-- The reason for which the state was changed. -/
def settled? : Stage → Option CloseReason
  | .reading | .leaving _ | .parting _ => none
  | .settling reason | .ended reason => some reason

/-- The reason that was announced. -/
def announced? : Stage → Option CloseReason
  | .ended reason => some reason
  | _ => none

/-- How many steps a task has before it, what it reads apart. -/
def stepsLeft : Stage → Nat
  | .reading => 4
  | .leaving _ => 3
  | .parting _ => 2
  | .settling _ => 1
  | .ended _ => 0

end Stage

/-- A subscription, whether its owner still has it, where the task of its reader is, and what
arrived on the connection and was not read. -/
structure ReaderTask where
  subscription : Subscription
  owned : Bool
  stage : Stage
  unread : List Signal

namespace ReaderTask

/-- A signal arrives; the owner asks for the close, drops the subscription, or takes the next event;
the task takes a signal, sees that it was asked to leave, or goes on behind its loop. -/
inductive Move where
  | arrive (signal : Signal)
  | close
  | drop
  | next
  | read
  | heed
  | proceed
  deriving DecidableEq

/-- Whether a move is one of the task. -/
def Move.isOwn : Move → Bool
  | .read | .heed | .proceed => true
  | _ => false

/-- What a move leaves: a signal was taken from the connection, an event was emitted, a close frame
was sent, or the owner got an event or was told that there are no more. -/
inductive Note where
  | took (signal : Signal)
  | emitted (event : Event)
  | closeFrame
  | got (event : Event)
  | finished
  deriving DecidableEq

/-- The signals that arrived. -/
def arrivalsOf (moves : List Move) : List Signal :=
  moves.filterMap fun
    | .arrive signal => some signal
    | _ => none

/-- Whether the owner asked for the close or dropped the subscription. -/
def Asked (moves : List Move) : Prop :=
  .close ∈ moves ∨ .drop ∈ moves

/-- The signals that the reader took. -/
def takenOf (notes : List Note) : List Signal :=
  notes.filterMap fun
    | .took signal => some signal
    | _ => none

/-- The events that the task emitted. -/
def emittedOf (notes : List Note) : List Event :=
  notes.filterMap fun
    | .emitted event => some event
    | _ => none

/-- The events that the owner got. -/
def gotOf (notes : List Note) : List Event :=
  notes.filterMap fun
    | .got event => some event
    | _ => none

/-- The task of a connection that has just been opened. -/
def start (topic : Topic) (url : Url) : ReaderTask where
  subscription := .start topic url
  owned := true
  stage := .reading
  unread := []

/-- The reader of a task. -/
def reader (t : ReaderTask) : Reader :=
  t.subscription.reader

/-- Go on with a reader at a stage. What it emits is kept only for an owner. -/
def goOn (t : ReaderTask) (r : Reader) (stage : Stage) : ReaderTask :=
  { t with
    subscription := { t.subscription with
      reader := { r with events := if t.owned then r.events else [] } }
    stage }

/-- Ask for the close. -/
def ask (t : ReaderTask) : ReaderTask :=
  { t with subscription := t.subscription.close }

/-- Drop the subscription, with what is kept for its owner. -/
def release (t : ReaderTask) : ReaderTask :=
  { t.ask with owned := false }.goOn t.reader t.stage

/-- Take the signal that arrived first. One that ends the connection ends the loop, and so does a
message that nobody will get. -/
def read (t : ReaderTask) : Option (ReaderTask × List Note) :=
  match t.unread with
  | [] => none
  | signal :: unread =>
    match signal.ending?, signal.message? t.reader.key with
    | some reason, _ => some ({ t with unread, stage := .leaving reason }, [.took signal])
    | none, none => some ({ t with unread }, [.took signal])
    | none, some message =>
      some ({ t with unread }.goOn (t.reader.react signal)
          (if t.owned then .reading else .leaving .requested),
        [.took signal, .emitted (.message message)])

/-- Go on behind the loop. -/
def proceed (t : ReaderTask) : Option (ReaderTask × List Note) :=
  match t.stage with
  | .leaving reason =>
    some (t.goOn (t.reader.part reason) (.parting reason),
      if reason = .requested then [.closeFrame] else [])
  | .parting reason => some (t.goOn t.reader.settle (.settling reason), [])
  | .settling reason =>
    some (t.goOn (t.reader.announce reason) (.ended reason), [.emitted (.closed reason)])
  | .reading | .ended _ => none

/-- Take the next event. There are no more when the task has ended. -/
def next (t : ReaderTask) : Option (ReaderTask × List Note) :=
  match t.subscription.nextEvent with
  | (.ready event, subscription) => some ({ t with subscription }, [.got event])
  | (.ended, _) => if t.stage.announced?.isSome then some (t, [.finished]) else none
  | (.waiting, _) => none

/-- The machine of the tasks of readers. -/
def machine : Machine ReaderTask Move Note
  | t, .arrive signal =>
    if signal ≠ .stop then some ({ t with unread := t.unread ++ [signal] }, []) else none
  | t, .close => if t.owned then some (t.ask, []) else none
  | t, .drop => if t.owned then some (t.release, []) else none
  | t, .next => if t.owned then t.next else none
  | t, .read => if t.stage = .reading then t.read else none
  | t, .heed =>
    if t.stage = .reading ∧ t.subscription.closing then
      some ({ t with stage := .leaving .requested }, [])
    else none
  | t, .proceed => t.proceed

variable {topic : Topic} {url : Url} {t u : ReaderTask} {move : Move} {moves : List Move}
  {notes more : List Note}

@[simp] theorem arrivalsOf_append (moves later : List Move) :
    arrivalsOf (moves ++ later) = arrivalsOf moves ++ arrivalsOf later :=
  List.filterMap_append

@[simp] theorem takenOf_append (notes more : List Note) :
    takenOf (notes ++ more) = takenOf notes ++ takenOf more :=
  List.filterMap_append

@[simp] theorem emittedOf_append (notes more : List Note) :
    emittedOf (notes ++ more) = emittedOf notes ++ emittedOf more :=
  List.filterMap_append

@[simp] theorem gotOf_append (notes more : List Note) :
    gotOf (notes ++ more) = gotOf notes ++ gotOf more :=
  List.filterMap_append

theorem asked_append {later : List Move} : Asked (moves ++ later) ↔ Asked moves ∨ Asked later := by
  rw [Asked, Asked, Asked, List.mem_append, List.mem_append]
  exact or_or_or_comm

/-! ### What a move can do -/

/-- What a move does: a signal arrives; the owner asks for the close, drops the subscription, gets
an event or is told that there are no more; the task takes a signal that ends its loop, that it
passes over, or that is a message, sees that it was asked to leave, or makes a step behind its
loop. -/
inductive Change (t : ReaderTask) : Move → ReaderTask → List Note → Prop
  | arrive {signal : Signal} (hsignal : signal ≠ .stop) :
      Change t (.arrive signal) { t with unread := t.unread ++ [signal] } []
  | close (howned : t.owned = true) : Change t .close t.ask []
  | drop (howned : t.owned = true) : Change t .drop t.release []
  | got {event : Event} {events : List Event} (howned : t.owned = true)
      (hevents : t.reader.events = event :: events) :
      Change t .next { t with subscription := { t.subscription with
        reader := { t.reader with events } } } [.got event]
  | finish {reason : CloseReason} (howned : t.owned = true) (hevents : t.reader.events = [])
      (hstage : t.stage = .ended reason) : Change t .next t [.finished]
  | leave {signal : Signal} {unread : List Signal} {reason : CloseReason}
      (hstage : t.stage = .reading) (hunread : t.unread = signal :: unread)
      (hending : signal.ending? = some reason) :
      Change t .read { t with unread, stage := .leaving reason } [.took signal]
  | skip {signal : Signal} {unread : List Signal} (hstage : t.stage = .reading)
      (hunread : t.unread = signal :: unread) (hending : signal.ending? = none)
      (hmessage : signal.message? t.reader.key = none) :
      Change t .read { t with unread } [.took signal]
  | emit {signal : Signal} {unread : List Signal} {message : Message}
      (hstage : t.stage = .reading) (hunread : t.unread = signal :: unread)
      (hending : signal.ending? = none) (hmessage : signal.message? t.reader.key = some message) :
      Change t .read
        ({ t with unread }.goOn (t.reader.react signal)
          (if t.owned then .reading else .leaving .requested))
        [.took signal, .emitted (.message message)]
  | heed (hstage : t.stage = .reading) (hclosing : t.subscription.closing = true) :
      Change t .heed { t with stage := .leaving .requested } []
  | part {reason : CloseReason} (hstage : t.stage = .leaving reason) :
      Change t .proceed (t.goOn (t.reader.part reason) (.parting reason))
        (if reason = .requested then [.closeFrame] else [])
  | settle {reason : CloseReason} (hstage : t.stage = .parting reason) :
      Change t .proceed (t.goOn t.reader.settle (.settling reason)) []
  | announce {reason : CloseReason} (hstage : t.stage = .settling reason) :
      Change t .proceed (t.goOn (t.reader.announce reason) (.ended reason))
        [.emitted (.closed reason)]

private theorem change_next (howned : t.owned = true) (h : t.next = some (u, notes)) :
    Change t .next u notes := by
  unfold next Subscription.nextEvent at h
  cases hevents : t.subscription.reader.events with
  | cons event events =>
    simp only [hevents, Option.some.injEq, Prod.mk.injEq] at h
    obtain ⟨rfl, rfl⟩ := h
    exact .got howned hevents
  | nil =>
    simp only [hevents] at h
    by_cases hclosed : t.subscription.reader.state = .closed
    · simp only [if_pos hclosed] at h
      obtain ⟨hstage, h⟩ := Option.ite_none_right_eq_some.mp h
      obtain ⟨rfl, rfl⟩ := Prod.mk.inj (Option.some.inj h)
      cases hs : t.stage with
      | ended reason => exact .finish howned hevents hs
      | _ => simp [hs, Stage.announced?] at hstage
    · simp only [if_neg hclosed] at h
      cases h

private theorem change_read (hstage : t.stage = .reading) (h : t.read = some (u, notes)) :
    Change t .read u notes := by
  unfold read at h
  cases hunread : t.unread with
  | nil => simp [hunread] at h
  | cons signal unread =>
    rw [hunread] at h
    dsimp only at h
    split at h
    · obtain ⟨rfl, rfl⟩ := Prod.mk.inj (Option.some.inj h)
      exact .leave hstage hunread ‹_›
    · obtain ⟨rfl, rfl⟩ := Prod.mk.inj (Option.some.inj h)
      exact .skip hstage hunread ‹_› ‹_›
    · obtain ⟨rfl, rfl⟩ := Prod.mk.inj (Option.some.inj h)
      exact .emit hstage hunread ‹_› ‹_›

private theorem change_proceed (h : t.proceed = some (u, notes)) : Change t .proceed u notes := by
  unfold proceed at h
  split at h
  · obtain ⟨rfl, rfl⟩ := Prod.mk.inj (Option.some.inj h)
    exact .part ‹_›
  · obtain ⟨rfl, rfl⟩ := Prod.mk.inj (Option.some.inj h)
    exact .settle ‹_›
  · obtain ⟨rfl, rfl⟩ := Prod.mk.inj (Option.some.inj h)
    exact .announce ‹_›
  · cases h
  · cases h

/-- All that a move can do. -/
theorem change_of_machine (h : machine t move = some (u, notes)) : Change t move u notes := by
  cases move with
  | arrive signal =>
    obtain ⟨hsignal, h⟩ := Option.ite_none_right_eq_some.mp h
    obtain ⟨rfl, rfl⟩ := Prod.mk.inj (Option.some.inj h)
    exact .arrive hsignal
  | close =>
    obtain ⟨howned, h⟩ := Option.ite_none_right_eq_some.mp h
    obtain ⟨rfl, rfl⟩ := Prod.mk.inj (Option.some.inj h)
    exact .close howned
  | drop =>
    obtain ⟨howned, h⟩ := Option.ite_none_right_eq_some.mp h
    obtain ⟨rfl, rfl⟩ := Prod.mk.inj (Option.some.inj h)
    exact .drop howned
  | next =>
    obtain ⟨howned, h⟩ := Option.ite_none_right_eq_some.mp h
    exact change_next howned h
  | read =>
    obtain ⟨hstage, h⟩ := Option.ite_none_right_eq_some.mp h
    exact change_read hstage h
  | heed =>
    obtain ⟨⟨hstage, hclosing⟩, h⟩ := Option.ite_none_right_eq_some.mp h
    obtain ⟨rfl, rfl⟩ := Prod.mk.inj (Option.some.inj h)
    exact .heed hstage hclosing
  | proceed => exact change_proceed h

/-! ### The steps of the task together -/

/-- The steps behind the loop together close the reader. -/
private theorem run_leaving {reason : CloseReason} (hstage : t.stage = .leaving reason)
    (howned : t.owned = true) :
    ∃ notes, machine.run t [.proceed, .proceed, .proceed] =
      some ({ t with
        subscription := { t.subscription with reader := t.reader.finish reason }
        stage := .ended reason }, notes) := by
  simp [Machine.run, machine, proceed, goOn, reader, hstage, howned, Reader.finish_eq, Reader.part,
    Reader.settle]

private theorem receive_eq {s : Subscription} {signal : Signal} (h : signal ≠ .stop ∨ s.closing) :
    s.receive signal = { s with reader := s.reader.react signal } := by
  refine if_neg fun hnot => ?_
  rcases h with hsignal | hclosing
  · exact hsignal hnot.1
  · rw [hclosing] at hnot
    cases hnot.2

/-- To take a signal that does not end the connection is to receive it. -/
theorem run_going {signal : Signal} {unread : List Signal} (hstage : t.stage = .reading)
    (howned : t.owned = true) (hopen : t.subscription.state ≠ .closed)
    (hunread : t.unread = signal :: unread) (hending : signal.ending? = none) :
    ∃ notes, machine.run t [.read] =
      some ({ t with subscription := t.subscription.receive signal, unread }, notes) := by
  have hsignal : signal ≠ .stop := by
    rintro rfl
    cases hending
  have hreact : t.reader.react signal = _ := Reader.react_of_ending_eq_none hopen hending
  rw [receive_eq (.inl hsignal)]
  cases hmessage : signal.message? t.reader.key with
  | none =>
    have hsame : t.subscription.reader.react signal = t.subscription.reader := by
      rw [hmessage] at hreact
      exact hreact.trans (by simp [reader])
    have hread : t.read = some ({ t with unread }, [.took signal]) := by
      simp [read, hunread, hending, hmessage]
    rw [hsame]
    exact ⟨_, machine.run_singleton.mpr ((if_pos hstage).trans hread)⟩
  | some message =>
    have hread : t.read = some ({ t with
        subscription := { t.subscription with reader := t.reader.react signal }, unread },
        [.took signal, .emitted (.message message)]) := by
      simp [read, hunread, hending, hmessage, howned, goOn, hstage]
    exact ⟨_, machine.run_singleton.mpr ((if_pos hstage).trans hread)⟩

/-- To take a signal that ends the connection, and to make the steps behind the loop, is to receive
it. -/
theorem run_ending {signal : Signal} {unread : List Signal} {reason : CloseReason}
    (hstage : t.stage = .reading) (howned : t.owned = true)
    (hopen : t.subscription.state ≠ .closed) (hunread : t.unread = signal :: unread)
    (hsignal : signal ≠ .stop) (hending : signal.ending? = some reason) :
    ∃ notes, machine.run t [.read, .proceed, .proceed, .proceed] =
      some ({ t with
        subscription := t.subscription.receive signal
        stage := .ended reason
        unread }, notes) := by
  have hread : machine t .read =
      some ({ t with unread, stage := .leaving reason }, [.took signal]) := by
    simp [machine, hstage, read, hunread, hending]
  obtain ⟨notes, hrun⟩ := run_leaving (t := { t with unread, stage := .leaving reason }) rfl howned
  rw [receive_eq (.inl hsignal), Reader.react_of_ending hopen hending]
  exact ⟨_, machine.run_append (machine.run_singleton.mpr hread) hrun⟩

/-- To see the request, and to make the steps behind the loop, is to receive it. -/
theorem run_stop (hstage : t.stage = .reading) (howned : t.owned = true)
    (hopen : t.subscription.state ≠ .closed) (hclosing : t.subscription.closing = true) :
    ∃ notes, machine.run t [.heed, .proceed, .proceed, .proceed] =
      some ({ t with
        subscription := t.subscription.receive .stop
        stage := .ended .requested }, notes) := by
  have hheed : machine t .heed = some ({ t with stage := .leaving .requested }, []) :=
    if_pos ⟨hstage, hclosing⟩
  obtain ⟨notes, hrun⟩ := run_leaving (t := { t with stage := .leaving .requested }) rfl howned
  have hreact : t.subscription.reader.react .stop = _ := Reader.react_of_ending hopen rfl
  rw [receive_eq (.inr hclosing), hreact]
  exact ⟨_, machine.run_append (machine.run_singleton.mpr hheed) hrun⟩

/-! ### Whether the task was asked to leave -/

/-- A task was asked to leave if and only if the owner asked for the close or dropped it. -/
structure Heard (moves : List Move) (t : ReaderTask) : Prop where
  closing_iff : t.subscription.closing = true ↔ Asked moves
  closing_of_dropped : t.owned = false → t.subscription.closing = true

theorem heard_start (topic : Topic) (url : Url) : Heard [] (start topic url) where
  closing_iff := by simp [start, Subscription.start, Asked]
  closing_of_dropped h := by cases h

/-- Only the owner asks. -/
theorem Heard.step (h : Heard moves t) (hstep : Change t move u more) :
    Heard (moves ++ [move]) u := by
  cases hstep with
  | close howned =>
    have hasked : Asked [Move.close] := .inl (List.mem_singleton_self _)
    exact ⟨iff_of_true rfl (asked_append.mpr (.inr hasked)), fun _ => rfl⟩
  | drop howned =>
    have hasked : Asked [Move.drop] := .inr (List.mem_singleton_self _)
    exact ⟨iff_of_true rfl (asked_append.mpr (.inr hasked)), fun _ => rfl⟩
  | _ => exact ⟨by rw [asked_append, ← h.closing_iff]; simp [Asked, goOn], h.closing_of_dropped⟩

/-! ### What the task has emitted -/

/-- For what reason a task that took signals has left its loop, if it has: because it was asked to,
or because of the last signal that it took. -/
inductive Left (asked : Prop) (taken : List Signal) : Option CloseReason → Prop
  | not (htaken : endOf taken = none) : Left asked taken none
  | asked (hasked : asked) (htaken : endOf taken = none) : Left asked taken (some .requested)
  | ended {before : List Signal} {signal : Signal} {reason : CloseReason}
      (htaken : taken = before ++ [signal]) (hbefore : endOf before = none)
      (hending : signal.ending? = some reason) (hreason : reason ≠ .requested) :
      Left asked taken (some reason)

/-- What holds of a task and what it has emitted after some moves. -/
structure Reached (topic : Topic) (moves : List Move) (t : ReaderTask) (notes : List Note) :
    Prop where
  key_eq : t.reader.key = topic.displayKey
  arrivals_eq : arrivalsOf moves = takenOf notes ++ t.unread
  ne_stop : ∀ signal ∈ arrivalsOf moves, signal ≠ .stop
  emitted_eq : emittedOf notes =
    ((takenOf notes).filterMap (Signal.message? topic.displayKey)).map .message ++
      closings t.stage.announced?
  left : Left (Asked moves) (takenOf notes) t.stage.left?
  closeFrames : notes.count .closeFrame = if t.stage.parted? = some .requested then 1 else 0
  state_eq : t.subscription.state = if t.stage.settled?.isSome then .closed else .streaming

theorem Left.mono {p q : Prop} {taken : List Signal} {reason : Option CloseReason}
    (h : Left p taken reason) (hpq : p → q) : Left q taken reason := by
  cases h with
  | not htaken => exact .not htaken
  | asked hasked htaken => exact .asked (hpq hasked) htaken
  | ended htaken hbefore hending hreason => exact .ended htaken hbefore hending hreason

theorem Left.endOf_eq_none {p : Prop} {taken : List Signal} (h : Left p taken none) :
    endOf taken = none := by
  cases h
  assumption

theorem reached_start (topic : Topic) (url : Url) : Reached topic [] (start topic url) [] where
  key_eq := rfl
  arrivals_eq := rfl
  ne_stop := by simp [arrivalsOf]
  emitted_eq := rfl
  left := .not rfl
  closeFrames := rfl
  state_eq := rfl

/-- A move that brings nothing changes nothing of what has come before. -/
private theorem Reached.later (h : Reached topic moves t notes) (move : Move)
    (hmove : arrivalsOf [move] = []) : Reached topic (moves ++ [move]) t notes where
  __ := h
  arrivals_eq := by rw [arrivalsOf_append, hmove, List.append_nil, h.arrivals_eq]
  ne_stop := by
    rw [arrivalsOf_append, hmove, List.append_nil]
    exact h.ne_stop
  left := h.left.mono fun h => asked_append.mpr (.inl h)

/-- What the owner gets is no matter of the task. -/
private theorem Reached.quiet (h : Reached topic moves t notes) (htaken : takenOf more = [])
    (hemitted : emittedOf more = []) (hframes : more.count .closeFrame = 0) :
    Reached topic moves t (notes ++ more) where
  __ := h
  arrivals_eq := by rw [takenOf_append, htaken, List.append_nil, h.arrivals_eq]
  emitted_eq := by
    rw [emittedOf_append, hemitted, takenOf_append, htaken, List.append_nil, List.append_nil,
      h.emitted_eq]
  left := by
    rw [takenOf_append, htaken, List.append_nil]
    exact h.left
  closeFrames := by rw [List.count_append, hframes, Nat.add_zero, h.closeFrames]

/-- A task in its loop has emitted the messages in what it took, and nothing more. -/
theorem Reached.of_reading (h : Reached topic moves t notes) (hstage : t.stage = .reading) :
    endOf (takenOf notes) = none ∧
      emittedOf notes =
        ((takenOf notes).filterMap (Signal.message? topic.displayKey)).map .message ∧
      notes.count .closeFrame = 0 ∧ t.subscription.state = .streaming := by
  obtain ⟨hleft, hemitted, hframes, hstate⟩ := And.intro h.left
    (And.intro h.emitted_eq (And.intro h.closeFrames h.state_eq))
  rw [hstage] at hleft hemitted hframes hstate
  exact ⟨hleft.endOf_eq_none, by simpa [Stage.announced?, closings] using hemitted, hframes, hstate⟩

private theorem Reached.arrivals_took (h : Reached topic moves t notes) {signal : Signal}
    {unread : List Signal} (hunread : t.unread = signal :: unread)
    (htaken : takenOf more = [signal]) :
    arrivalsOf (moves ++ [.read]) = takenOf (notes ++ more) ++ unread := by
  rw [(h.later .read rfl).arrivals_eq, hunread, takenOf_append, htaken,
    List.append_assoc, List.singleton_append]

/-- A step behind the loop takes nothing. What it emits, sends and changes is that of its stage. -/
private theorem Reached.proceed {r : Reader} {stage : Stage} (h : Reached topic moves t notes)
    (hleft : stage.left? = t.stage.left?) (hkey : r.key = t.reader.key)
    (htaken : takenOf more = [])
    (hemitted : closings stage.announced? = closings t.stage.announced? ++ emittedOf more)
    (hframes : (if stage.parted? = some .requested then 1 else 0) =
      (if t.stage.parted? = some .requested then 1 else 0) + more.count .closeFrame)
    (hstate : r.state = if stage.settled?.isSome then .closed else .streaming) :
    Reached topic (moves ++ [.proceed]) (t.goOn r stage) (notes ++ more) where
  __ := h.later .proceed rfl
  key_eq := hkey.trans h.key_eq
  arrivals_eq := by
    rw [takenOf_append, htaken, List.append_nil]
    exact (h.later _ rfl).arrivals_eq
  emitted_eq := by
    rw [emittedOf_append, h.emitted_eq, takenOf_append, htaken, List.append_nil, List.append_assoc,
      ← hemitted]
    rfl
  left := by
    rw [takenOf_append, htaken, List.append_nil]
    exact hleft ▸ (h.later _ rfl).left
  closeFrames := by
    rw [List.count_append, h.closeFrames, ← hframes]
    rfl
  state_eq := hstate

/-- What a task has emitted after a move. -/
theorem Reached.step (h : Reached topic moves t notes) (ht : Heard moves t)
    (hstep : Change t move u more) : Reached topic (moves ++ [move]) u (notes ++ more) := by
  cases hstep with
  | arrive hsignal =>
    rw [List.append_nil]
    exact {
      h with
      arrivals_eq := by simp [arrivalsOf, ← List.append_assoc, ← h.arrivals_eq]
      ne_stop := by
        rw [arrivalsOf_append]
        intro signal hmem
        rcases List.mem_append.mp hmem with hmem | hmem
        · exact h.ne_stop signal hmem
        · obtain rfl := List.mem_singleton.mp hmem
          exact hsignal
      left := h.left.mono fun h => asked_append.mpr (.inl h) }
  | close howned =>
    rw [List.append_nil]
    exact { h.later .close rfl with }
  | drop howned =>
    rw [List.append_nil]
    exact { h.later .drop rfl with }
  | got howned hevents =>
    exact { (h.later .next rfl).quiet rfl rfl rfl with }
  | finish howned hevents hstage => exact (h.later _ rfl).quiet rfl rfl rfl
  | @leave signal unread reason hstage hunread hending =>
    obtain ⟨hgoing, hemitted, hframes, hstate⟩ := h.of_reading hstage
    have hstop : signal ≠ .stop := h.ne_stop signal (by simp [h.arrivals_eq, hunread])
    exact {
      h.later .read rfl with
      arrivals_eq := h.arrivals_took hunread rfl
      emitted_eq := by
        rw [emittedOf_append, hemitted, takenOf_append]
        simp [emittedOf, takenOf, Signal.message?_of_ending hending, Stage.announced?, closings]
      left := .ended (takenOf_append _ _) hgoing hending fun hreason =>
        hstop (Signal.ending?_eq_requested.mp (hreason ▸ hending))
      closeFrames := by rw [List.count_append, hframes]; rfl
      state_eq := hstate }
  | @skip signal unread hstage hunread hending hmessage =>
    obtain ⟨hgoing, hemitted, hframes, hstate⟩ := h.of_reading hstage
    rw [h.key_eq] at hmessage
    exact {
      h.later .read rfl with
      arrivals_eq := h.arrivals_took hunread rfl
      emitted_eq := by
        rw [emittedOf_append, hemitted, takenOf_append]
        simp [emittedOf, takenOf, hmessage, hstage, Stage.announced?, closings]
      left := by
        rw [hstage, takenOf_append]
        exact .not ((endOf_append hgoing _).trans (endOf_cons hending _))
      closeFrames := by rw [List.count_append, hframes]; simp [hstage, Stage.parted?]
      state_eq := by simpa [hstage, Stage.settled?] using hstate }
  | @emit signal unread message hstage hunread hending hmessage =>
    obtain ⟨hgoing, hemitted, hframes, hstate⟩ := h.of_reading hstage
    obtain ⟨hkey, hkept⟩ := t.reader.react_going hending
    have htaken : endOf (takenOf notes ++ [signal]) = none :=
      (endOf_append hgoing _).trans (endOf_cons hending _)
    rw [h.key_eq] at hmessage
    exact {
      h.later .read rfl with
      key_eq := hkey.trans h.key_eq
      arrivals_eq := h.arrivals_took hunread rfl
      emitted_eq := by
        rw [emittedOf_append, hemitted, takenOf_append]
        cases howned : t.owned <;>
          simp [emittedOf, takenOf, hmessage, goOn, Stage.announced?, closings]
      left := by
        rw [takenOf_append]
        cases howned : t.owned with
        | true => exact .not htaken
        | false =>
          have hasked := ht.closing_iff.mp (ht.closing_of_dropped howned)
          exact .asked (asked_append.mpr (.inl hasked)) htaken
      closeFrames := by
        rw [List.count_append, hframes]
        cases howned : t.owned <;> simp [goOn, Stage.parted?]
      state_eq := by
        cases howned : t.owned <;> exact hkept.trans hstate }
  | heed hstage hclosing =>
    obtain ⟨hgoing, hemitted, hframes, hstate⟩ := h.of_reading hstage
    rw [List.append_nil]
    exact {
      h.later .heed rfl with
      emitted_eq := by simpa [Stage.announced?, closings] using hemitted
      left := .asked (asked_append.mpr (.inl (ht.closing_iff.mp hclosing))) hgoing
      closeFrames := hframes
      state_eq := hstate }
  | @part reason hstage =>
    have hstate : t.reader.state = .streaming := by
      have hstate := h.state_eq
      rwa [hstage] at hstate
    refine h.proceed (by rw [hstage]; rfl) rfl ?_ ?_ ?_ hstate
    · split <;> rfl
    · rw [hstage]
      split <;> rfl
    · rw [hstage]
      by_cases hreason : reason = .requested <;> simp [hreason, Stage.parted?]
  | @settle reason hstage =>
    exact h.proceed (by rw [hstage]; rfl) rfl rfl (by rw [hstage]; rfl) (by rw [hstage]; rfl) rfl
  | @announce reason hstage =>
    have hstate : t.reader.state = .closed := by
      have hstate := h.state_eq
      rwa [hstage] at hstate
    exact h.proceed (by rw [hstage]; rfl) rfl rfl (by rw [hstage]; rfl) (by rw [hstage]; rfl) hstate

/-! ### What the owner gets -/

/-- What the owner got and what is kept for it is what was emitted, beginning with the event that
opens the subscription. An owner that was told that there are no more has got everything. -/
structure Served (t : ReaderTask) (notes : List Note) : Prop where
  got_prefix : gotOf notes <+: .opened :: emittedOf notes
  kept_eq : t.owned = true → gotOf notes ++ t.reader.events = .opened :: emittedOf notes
  finished : .finished ∈ notes →
    t.stage.announced?.isSome = true ∧ gotOf notes = .opened :: emittedOf notes

theorem served_start (topic : Topic) (url : Url) : Served (start topic url) [] where
  got_prefix := List.nil_prefix
  kept_eq _ := rfl
  finished h := by cases h

/-- What a task emits before it ends is kept for the owner. -/
private theorem Served.emit (h : Served t notes) (hstage : t.stage.announced? = none)
    (hgot : gotOf more = []) (hover : .finished ∉ more)
    (hkept : u.owned = true →
      t.owned = true ∧ u.reader.events = t.reader.events ++ emittedOf more) :
    Served u (notes ++ more) where
  got_prefix := by
    rw [gotOf_append, hgot, List.append_nil, emittedOf_append]
    exact h.got_prefix.trans (List.prefix_append _ _)
  kept_eq howned := by
    obtain ⟨howned, hevents⟩ := hkept howned
    rw [gotOf_append, hgot, List.append_nil, hevents, emittedOf_append, ← List.append_assoc,
      h.kept_eq howned, List.cons_append]
  finished hmem := by
    have hnot : Note.finished ∉ notes := fun hmem => by
      have hsome := (h.finished hmem).1
      rw [hstage] at hsome
      cases hsome
    exact absurd hmem (by simp [hnot, hover])

private theorem Served.goOn {r : Reader} {stage : Stage} (h : Served t notes)
    (hstage : t.stage.announced? = none) (hgot : gotOf more = []) (hover : .finished ∉ more)
    (hevents : r.events = t.reader.events ++ emittedOf more) :
    Served (t.goOn r stage) (notes ++ more) := by
  refine h.emit hstage hgot hover fun howned => ?_
  have howned : t.owned = true := howned
  have hkept : (t.goOn r stage).reader.events = if t.owned then r.events else [] := rfl
  exact ⟨howned, by rw [hkept, if_pos howned, hevents]⟩

/-- What the owner has got after a move. -/
theorem Served.step (h : Served t notes) (ht : Reached topic moves t notes)
    (hstep : Change t move u more) : Served u (notes ++ more) := by
  cases hstep with
  | arrive hsignal =>
    rw [List.append_nil]
    exact { h with }
  | close howned =>
    rw [List.append_nil]
    exact { h with }
  | drop howned =>
    rw [List.append_nil]
    exact { h with kept_eq := fun howned => by cases howned }
  | @got event events howned hevents =>
    have hkept := h.kept_eq howned
    rw [hevents] at hkept
    have hgot : gotOf (notes ++ [.got event]) ++ events = .opened :: emittedOf notes := by
      rw [gotOf_append, List.append_assoc]
      exact hkept
    have hemitted : emittedOf (notes ++ [.got event]) = emittedOf notes := by
      rw [emittedOf_append]
      exact List.append_nil _
    exact {
      got_prefix := hemitted ▸ ⟨events, hgot⟩
      kept_eq := fun _ => hemitted ▸ hgot
      finished := fun hmem => by
        -- Whoever has been told that there are no more has nothing left to get.
        have hover : Note.finished ∈ notes := by simpa using hmem
        rw [← (h.finished hover).2] at hkept
        simp at hkept }
  | finish howned hevents hstage =>
    have hkept := h.kept_eq howned
    rw [hevents, List.append_nil] at hkept
    have hgot : gotOf (notes ++ [.finished]) = .opened :: emittedOf (notes ++ [.finished]) := by
      rw [gotOf_append, emittedOf_append]
      simpa [gotOf, emittedOf] using hkept
    exact {
      got_prefix := hgot ▸ List.prefix_rfl
      kept_eq := fun _ => by rw [hevents, List.append_nil, hgot]
      finished := fun _ => ⟨by rw [hstage]; rfl, hgot⟩ }
  | leave hstage hunread hending =>
    exact h.emit (by rw [hstage]; rfl) rfl (by simp) fun howned =>
      ⟨howned, (List.append_nil _).symm⟩
  | skip hstage hunread hending hmessage =>
    exact h.emit (by rw [hstage]; rfl) rfl (by simp) fun howned =>
      ⟨howned, (List.append_nil _).symm⟩
  | @emit signal unread message hstage hunread hending hmessage =>
    have hopen : t.reader.state ≠ .closed := by
      have hstate := (ht.of_reading hstage).2.2.2
      exact fun hclosed => by cases hstate.symm.trans hclosed
    have hserved : Served { t with unread } notes := { h with }
    refine hserved.goOn (by rw [hstage]; rfl) rfl (by simp) ?_
    rw [Reader.react_of_ending_eq_none hopen hending, hmessage]
    rfl
  | heed hstage hclosing =>
    exact h.emit (by rw [hstage]; rfl) rfl (by simp) fun howned =>
      ⟨howned, (List.append_nil _).symm⟩
  | part hstage =>
    refine h.goOn (by rw [hstage]; rfl) (by split <;> rfl) (by split <;> simp) ?_
    split <;> exact (List.append_nil _).symm
  | settle hstage =>
    exact h.goOn (by rw [hstage]; rfl) rfl (by simp) (List.append_nil _).symm
  | announce hstage => exact h.goOn (by rw [hstage]; rfl) rfl (by simp) rfl

/-- What holds of a task after a run from its start. -/
theorem reached_of_run (h : machine.run (start topic url) moves = some (t, notes)) :
    Heard moves t ∧ Reached topic moves t notes ∧ Served t notes := by
  refine Machine.run_induction
    (motive := fun moves t notes => Heard moves t ∧ Reached topic moves t notes ∧ Served t notes)
    ⟨heard_start topic url, reached_start topic url, served_start topic url⟩ ?_ h
  rintro moves t notes move u more - ⟨hheard, hreached, hserved⟩ hstep
  have hchange := change_of_machine hstep
  exact ⟨hheard.step hchange, hreached.step hheard hchange, hserved.step hreached hchange⟩

end ReaderTask

end FeedRelay.Feed
