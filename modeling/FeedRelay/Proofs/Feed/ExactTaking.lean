import FeedRelay.Proofs.Feed.Consumption
import FeedRelay.Proofs.Feed.OwnerCalls

/-!
# Taking from a subscription loses and repeats nothing

The calls of an owner share one queue, and some of them pass over what others return, so what a call
answers depends on the whole history. The account of that history (`Owner.Accounts`) and the
invariants of the task of the reader give what each answer can be. To take by one call or by another
(`Owner.run_plain`), and to ask for the close once or again (`Owner.run_filter_close`), are compared
as whole runs. That the shutdown returns is in the number of steps that it has left
(`Owner.shutdown_of_own`).

## Main results

* `Owner.takes_each_event_once`: what all calls together take and answer, for every mix of them.
-/

namespace FeedRelay.Feed.Owner

variable {topic : Topic} {url : Url} {o p u : Owner} {move : Move} {moves later : List Move}
  {notes more : List Note} {way : Way} {reason : CloseReason} {messages : List Message}
  {taken rest : List Event}

/-! ### The next event and the next one of the stream -/

/-- A call for the next one of the stream, as one for the next event. -/
def Way.plain : Way → Way
  | .stream => .event
  | way => way

/-- A place with the calls for the next one of the stream as ones for the next event. -/
def Place.plain : Place → Place
  | .taking way => .taking way.plain
  | place => place

/-- A move with the calls for the next one of the stream as ones for the next event. -/
def Move.plain : Move → Move
  | .call way => .call way.plain
  | move => move

/-- A note with the calls for the next one of the stream as ones for the next event. -/
def Note.plain : Note → Note
  | .took way item => .took way.plain item
  | note => note

/-- An owner with the calls for the next one of the stream as ones for the next event. -/
def plain (o : Owner) : Owner :=
  { o with place := o.place.plain }

@[simp] theorem Way.answer?_plain (way : Way) (item : Option Event) :
    way.plain.answer? item = way.answer? item := by
  cases way <;> rfl

/-- It makes no difference to a move which of the two is called. -/
theorem machine_plain (o : Owner) (move : Move) :
    machine o.plain move.plain =
      (machine o move).map (Prod.map Owner.plain (List.map Note.plain)) := by
  cases move with
  | task move =>
    simp only [machine, Move.plain]
    split
    · rfl
    · rw [Option.map_map]
      refine congrArg (Option.map · (ReaderTask.machine o.task move)) (funext fun next => ?_)
      simp [plain, Note.plain]
  | call way =>
    cases hplace : o.place <;> simp [machine, Move.plain, plain, Place.plain, hplace]
  | close | shutdown =>
    cases hplace : o.place <;>
      simp [machine, ask, Move.plain, plain, Place.plain, hplace, Function.comp_def]
  | take =>
    cases hplace : o.place with
    | idle | gone => simp [machine, take, Move.plain, plain, Place.plain, hplace]
    | taking way =>
      simp only [machine, take, Move.plain, plain, Place.plain, hplace, Option.map_map]
      refine congrArg (Option.map · (ReaderTask.machine o.task .next)) (funext fun next => ?_)
      rw [Way.answer?_plain]
      cases hanswer : way.answer? (ReaderTask.gotOf next.2).head? <;>
        simp [hanswer, plain, Place.plain, Note.plain]
    | leaving found =>
      simp only [machine, take, Move.plain, plain, Place.plain, hplace, Option.map_map]
      refine congrArg (Option.map · (ReaderTask.machine o.task .next)) (funext fun next => ?_)
      cases hitem : (ReaderTask.gotOf next.2).head? <;>
        simp [hitem, plain, Place.plain, Note.plain]
  | cancel =>
    cases hplace : o.place <;> simp [machine, Move.plain, plain, Place.plain, hplace]

/-- It makes no difference to a run which of the two is called, each time. -/
theorem run_plain (o : Owner) (moves : List Move) :
    machine.run o.plain (moves.map Move.plain) =
      (machine.run o moves).map (Prod.map Owner.plain (List.map Note.plain)) :=
  Machine.run_map machine_plain o moves

/-- Two owners that differ in which of the two they call are answered the same. -/
theorem exists_run_of_plain_eq {other : List Move}
    (hother : other.map Move.plain = moves.map Move.plain)
    (h : machine.run (start topic url) moves = some (o, notes)) :
    ∃ p more, machine.run (start topic url) other = some (p, more) ∧ p.plain = o.plain ∧
      more.map Note.plain = notes.map Note.plain := by
  have hrun := run_plain (start topic url) other
  rw [hother, run_plain, h, Option.map_some] at hrun
  obtain ⟨⟨p, more⟩, hp, heq⟩ := Option.map_eq_some_iff.mp hrun.symm
  obtain ⟨hplain, hnotes⟩ := Prod.mk.inj heq
  exact ⟨p, more, hp, hplain, hnotes⟩

/-! ### To ask for the close again -/

private theorem ask_of_closing {t : ReaderTask} (h : t.subscription.closing = true) :
    t.ask = t := by
  simp [ReaderTask.ask, Subscription.close, ← h]

theorem close_of_closing (hplace : o.place = .idle) (howned : o.task.owned = true)
    (hclosing : o.task.subscription.closing = true) : machine o .close = some (o, []) := by
  have hclose : ReaderTask.machine o.task .close = some (o.task.ask, []) := if_pos howned
  have hask : machine o .close = some ({ task := o.task.ask, place := .idle }, []) := by
    rw [machine, ask, if_pos hplace, hclose]
    rfl
  rw [hask, ask_of_closing hclosing, ← hplace]

/-- A close that was asked for stays asked for. -/
theorem closing_of_machine (h : machine o move = some (u, notes))
    (hclosing : o.task.subscription.closing = true) : u.task.subscription.closing = true := by
  have hkeep {t u : ReaderTask} {move : ReaderTask.Move} {notes : List ReaderTask.Note}
      (hstep : ReaderTask.machine t move = some (u, notes))
      (ht : t.subscription.closing = true) : u.subscription.closing = true := by
    cases ReaderTask.change_of_machine hstep with
    | close | drop => rfl
    | _ => exact ht
  cases change_of_machine h with
  | task hmove hstep => exact hkeep hstep hclosing
  | answer hplace hnext | pass hplace hnext | drop hplace hnext | leave hplace hnext =>
    exact hkeep hnext hclosing
  | close | shutdown => rfl
  | call | cancel => exact hclosing

/-- When the close has been asked for, to ask for it again or not leads to the same and leaves the
same. -/
theorem run_filter_close (hclosing : o.task.subscription.closing = true)
    (h : machine.run o later = some (u, notes)) :
    machine.run o (later.filter (· ≠ .close)) = some (u, notes) := by
  induction later generalizing o notes with
  | nil => exact h
  | cons move rest ih =>
    obtain ⟨p, first, more, hmove, hrest, rfl⟩ := machine.run_cons_eq_some.mp h
    have hrest := ih (closing_of_machine hmove hclosing) hrest
    by_cases hclose : move = .close
    · subst hclose
      rw [List.filter_cons_of_neg (by simp)]
      cases change_of_machine hmove with
      | close hplace howned =>
        rw [ask_of_closing hclosing] at hrest
        exact hrest
    · rw [List.filter_cons_of_pos (by simpa using hclose)]
      exact machine.run_cons_eq_some.mpr ⟨p, first, more, hmove, hrest, rfl⟩

/-! ### The reason that the shutdown answers -/

/-- The last event of a subscription was taken, or it is the last among those that were not. -/
theorem lastReason_of_append
    (h : taken ++ rest = .opened :: messages.map .message ++ [.closed reason]) :
    Subscription.lastReason rest = if .closed reason ∈ taken then none else some reason := by
  rcases List.eq_nil_or_concat rest with rfl | ⟨init, last, rfl⟩
  · rw [List.append_nil] at h
    rw [if_pos (by rw [h]; simp)]
    rfl
  · rw [List.concat_eq_append, ← List.append_assoc] at h
    obtain ⟨hinit, hlast⟩ := List.append_inj' h rfl
    obtain rfl : last = .closed reason := by simpa using hlast
    have hnot : Event.closed reason ∉ taken := fun hmem => by
      have hmem : Event.closed reason ∈ taken ++ init := List.mem_append_left _ hmem
      rw [hinit] at hmem
      simp at hmem
    rw [List.concat_eq_append, lastReason_concat, if_neg hnot]
    rfl

/-- What was taken, what the shutdown dropped and what waits is what was emitted. -/
theorem taken_append_dropped (h : machine.run (start topic url) moves = some (o, notes)) :
    takenOf notes ++ droppedOf notes ++ o.task.reader.events =
      .opened :: ReaderTask.emittedOf (innerOf notes) := by
  rw [← (accounts_of_run h).got_eq]
  exact (reached_of_run h).2.2.kept_eq (owned_of_run h)

/-- An owner that has seen the end has taken everything. -/
theorem ended_of_finished (h : machine.run (start topic url) moves = some (o, notes))
    (hfinished : .finished ∈ innerOf notes) :
    ∃ reason, o.task.stage = .ended reason ∧ takenOf notes ++ droppedOf notes =
      .opened :: ((ReaderTask.takenOf (innerOf notes)).filterMap
        (Signal.message? topic.displayKey)).map .message ++ [.closed reason] := by
  obtain ⟨-, hreached, hserved⟩ := reached_of_run h
  obtain ⟨hstage, hgot⟩ := hserved.finished hfinished
  cases hs : o.task.stage with
  | ended reason =>
    refine ⟨reason, rfl, ?_⟩
    rw [← (accounts_of_run h).got_eq, hgot, hreached.emitted_eq, hs]
    rfl
  | _ => simp [hs, Stage.announced?] at hstage

/-- When a call says that there is nothing more, the calls have taken everything up to the last
event. -/
theorem ended_of_answer (h : machine.run (start topic url) moves = some (o, notes))
    (hstep : machine o .take = some (u, more)) {answer : Answer} (hmem : answer ∈ answersOf more)
    (hend : answer.isEnd = true) :
    ∃ reason, o.task.stage = .ended reason ∧ takenOf notes =
      .opened :: ((ReaderTask.takenOf (innerOf notes)).filterMap
        (Signal.message? topic.displayKey)).map .message ++ [.closed reason] := by
  cases change_of_machine hstep with
  | pass | drop => cases hmem
  | leave =>
    obtain rfl := List.mem_singleton.mp hmem
    cases hend
  | @answer way task item _ hplace hnext hanswer =>
    obtain rfl := List.mem_singleton.mp hmem
    obtain rfl := (Way.answer?_spec hanswer).2.2.2 hend
    cases ReaderTask.change_of_machine hnext with
    | @finish reason howned hevents hstage =>
      have hall := taken_append_dropped h
      have hagrees := (accounts_of_run h).agrees
      rw [hplace] at hagrees
      rw [hagrees.1, hevents, List.append_nil, List.append_nil,
        (reached_of_run h).2.1.emitted_eq, hstage] at hall
      exact ⟨reason, hstage, hall⟩

/-- The shutdown answers with the reason of the close, unless a call took that event before. -/
theorem reason_eq (h : machine.run (start topic url) moves = some (o, notes))
    {found : Option CloseReason} (hfound : found ∈ reasonsOf notes) :
    ∃ reason, o.task.stage = .ended reason ∧
      found = if .closed reason ∈ takenOf notes then none else some reason := by
  have hagrees := (accounts_of_run h).agrees
  cases hplace : o.place with
  | idle | taking | leaving =>
    rw [hplace] at hagrees
    rw [hagrees.2] at hfound
    cases hfound
  | gone =>
    rw [hplace] at hagrees
    obtain ⟨hreasons, hfinished⟩ := hagrees
    obtain ⟨reason, hstage, hall⟩ := ended_of_finished h hfinished
    rw [hreasons, List.mem_singleton] at hfound
    exact ⟨reason, hstage, hfound.trans (lastReason_of_append hall)⟩

/-! ### What a call waits for -/

/-- What has been announced comes after the change of the state. -/
private theorem closed_of_announced {t : ReaderTask} {inner : List ReaderTask.Move}
    {seen : List ReaderTask.Note} (h : ReaderTask.Reached topic inner t seen)
    (hstage : t.stage.announced?.isSome = true) : t.subscription.state = .closed := by
  rw [h.state_eq, if_pos]
  cases hs : t.stage <;> simp_all [Stage.announced?, Stage.settled?]

private theorem next_eq_none {t : ReaderTask} (howned : t.owned = true)
    (hclosed : t.stage.announced?.isSome = true → t.subscription.state = .closed) :
    ReaderTask.machine t .next = none ↔ t.reader.events = [] ∧ t.stage.announced? = none := by
  rw [ReaderTask.machine, if_pos howned, ReaderTask.next, Subscription.nextEvent]
  change _ ↔ t.subscription.reader.events = [] ∧ _
  cases hevents : t.subscription.reader.events with
  | cons event events => simp
  | nil =>
    cases hstage : t.stage.announced? with
    | none => by_cases hstate : t.subscription.reader.state = .closed <;> simp [hstate]
    | some reason =>
      have hstate : t.subscription.reader.state = .closed := hclosed (by rw [hstage]; rfl)
      simp [hstate]

/-- A call, or the shutdown, has to wait if and only if nothing is there and the reader has not come
to its end. -/
theorem take_eq_none (h : machine.run (start topic url) moves = some (o, notes))
    (hplace : o.place ≠ .idle ∧ o.place ≠ .gone) :
    machine o .take = none ↔ o.task.reader.events = [] ∧ o.task.stage.announced? = none := by
  rw [← next_eq_none (owned_of_run h) (closed_of_announced (reached_of_run h).2.1)]
  change o.take = none ↔ _
  cases hp : o.place with
  | idle | gone => simp [hp] at hplace
  | taking | leaving => simp only [take, hp, Option.map_eq_none_iff]

/-! ### The shutdown comes to its end -/

/-- Whether a move is one of the task, or takes what comes next. -/
def Move.isOwn : Move → Bool
  | .task move => move.isOwn
  | .take => true
  | _ => false

/-- Whether an owner shuts its subscription down, or has done so. -/
def Place.isLast : Place → Bool
  | .leaving _ | .gone => true
  | .idle | .taking _ => false

/-- How many steps a shutdown can take, if nothing more arrives: the task may emit an event in each
of its steps, and every event is taken. -/
def stepsLeft (o : Owner) : Nat :=
  2 * o.task.stepsLeft + o.task.reader.events.length + if o.place = .gone then 0 else 1

private theorem length_events_le {t u : ReaderTask} {move : ReaderTask.Move}
    {seen : List ReaderTask.Note} (h : ReaderTask.Change t move u seen)
    (hown : move.isOwn = true) : u.reader.events.length ≤ t.reader.events.length + 1 := by
  have hgoOn (t : ReaderTask) (r : Reader) (stage : Stage) :
      (t.goOn r stage).reader.events.length ≤ r.events.length := by
    change (if t.owned then r.events else []).length ≤ _
    split <;> simp
  cases h with
  | @emit signal unread message hstage hunread hending hmessage =>
    refine Nat.le_trans (hgoOn _ _ _) ?_
    by_cases hclosed : t.reader.state = .closed
    · rw [Reader.react_of_closed hclosed]
      exact Nat.le_succ _
    · rw [Reader.react_of_ending_eq_none hclosed hending, hmessage]
      simp
  | announce hstage =>
    refine Nat.le_trans (hgoOn _ _ _) ?_
    simp [Reader.announce]
  | part | settle => exact Nat.le_trans (hgoOn _ _ _) (Nat.le_succ _)
  | leave | skip | heed => exact Nat.le_succ _
  | _ => cases hown

/-- A step in a shutdown brings it nearer to its end. -/
private theorem stepsLeft_lt (h : machine o move = some (u, notes)) (hown : move.isOwn = true)
    (hlast : o.place.isLast = true) : u.place.isLast = true ∧ u.stepsLeft < o.stepsLeft := by
  cases change_of_machine h with
  | @task move task inner hmove hinner =>
    have hchange := ReaderTask.change_of_machine hinner
    have hlt := hchange.stepsLeft_lt hown
    have hle := length_events_le hchange hown
    refine ⟨hlast, ?_⟩
    simp only [stepsLeft]
    omega
  | answer hplace | pass hplace =>
    rw [hplace] at hlast
    cases hlast
  | drop hplace hnext =>
    cases ReaderTask.change_of_machine hnext with
    | @got _ events howned hevents =>
      have hshort : events.length < o.task.reader.events.length := by
        rw [hevents]
        exact Nat.lt_succ_self _
      refine ⟨rfl, ?_⟩
      simpa [stepsLeft, ReaderTask.stepsLeft, hplace, ReaderTask.reader] using hshort
  | leave hplace hnext =>
    cases ReaderTask.change_of_machine hnext with
    | finish howned hevents hstage =>
      exact ⟨rfl, by simp [stepsLeft, hplace]⟩
  | _ => cases hown

/-- An owner that shuts its subscription down has asked for the close. -/
theorem closing_of_isLast (h : machine.run (start topic url) moves = some (o, notes)) :
    o.place.isLast = true → o.task.subscription.closing = true := by
  refine Machine.run_induction
    (motive := fun _ o _ => o.place.isLast = true → o.task.subscription.closing = true)
    (fun hlast => by cases hlast) ?_ h
  intro _ o _ move u _ _ ho hstep hlast
  cases change_of_machine hstep with
  | shutdown => rfl
  | task hmove hinner => exact closing_of_machine hstep (ho hlast)
  | drop hplace | leave hplace => exact closing_of_machine hstep (ho (by rw [hplace]; rfl))
  | close hplace =>
    rw [show o.place.isLast = false by rw [hplace]; rfl] at hlast
    cases hlast
  | _ => cases hlast

/-- The steps in a shutdown are at most those that it had left, and when there is none it has come
to its end. -/
theorem shutdown_of_own (h : machine.run (start topic url) moves = some (o, notes))
    (hlast : o.place.isLast = true) (hlater : machine.run o later = some (u, more))
    (hown : ∀ move ∈ later, move.isOwn = true) :
    later.length + u.stepsLeft ≤ o.stepsLeft ∧
      ((∀ move, move.isOwn = true → machine u move = none) → u.place = .gone) := by
  obtain ⟨hulast, hle⟩ : u.place.isLast = true ∧ later.length + u.stepsLeft ≤ o.stepsLeft := by
    refine Machine.run_induction
      (motive := fun moves u _ => (∀ move ∈ moves, move.isOwn = true) →
        u.place.isLast = true ∧ moves.length + u.stepsLeft ≤ o.stepsLeft)
      (fun _ => ⟨hlast, by simp⟩) ?_ hlater hown
    intro moves u _ move v _ _ hu hstep hown
    obtain ⟨hlast, hle⟩ := hu fun move hmem => hown move (List.mem_append_left _ hmem)
    obtain ⟨hlast, hlt⟩ := stepsLeft_lt hstep (hown move (by simp)) hlast
    refine ⟨hlast, ?_⟩
    rw [List.length_append, List.length_singleton]
    omega
  refine ⟨hle, fun hstuck => ?_⟩
  have hrun := machine.run_append h hlater
  have htask (move : ReaderTask.Move) (hmove : move.isOwn = true) :
      ReaderTask.machine u.task move = none := by
    have howners : move.isOwners = false := by cases move <;> first | rfl | cases hmove
    have hnone := hstuck (.task move) hmove
    simpa only [machine, howners, Bool.false_eq_true, if_false, Option.map_eq_none_iff] using hnone
  -- A task that was asked to leave and can do nothing has ended, and then nothing has to wait.
  cases hplace : u.place with
  | gone => rfl
  | leaving found =>
    have hwaits := (take_eq_none hrun (by simp [hplace])).mp (hstuck .take rfl)
    rcases ReaderTask.ended_or_waiting htask with ⟨reason, hstage⟩ | ⟨-, -, hclosing⟩
    · rw [hstage] at hwaits
      cases hwaits.2
    · rw [closing_of_isLast hrun hulast] at hclosing
      cases hclosing
  | idle | taking =>
    rw [hplace] at hulast
    cases hulast

/-! ### Calls that nothing comes between -/

/-- What a call for the next message answers with what is there, if that is enough. -/
def messageAnswer? (t : ReaderTask) : Option Answer :=
  match t.subscription.nextMessage.1 with
  | .ready m => some (.message (some m))
  | .ended | .waiting => if t.stage.announced?.isSome then some (.message none) else none

private theorem next_of_cons {t : ReaderTask} {e : Event} (howned : t.owned = true)
    (hevents : t.subscription.reader.events = e :: rest) :
    ReaderTask.machine t .next =
      some ({ t with subscription := t.subscription.pop rest }, [.got e]) := by
  rw [ReaderTask.machine, if_pos howned, ReaderTask.next, Subscription.nextEvent, hevents]
  rfl

private theorem next_of_nil {t : ReaderTask} (howned : t.owned = true)
    (hclosed : t.stage.announced?.isSome = true → t.subscription.state = .closed)
    (hevents : t.subscription.reader.events = []) :
    ReaderTask.machine t .next =
      if t.stage.announced?.isSome then some (t, [.finished]) else none := by
  rw [ReaderTask.machine, if_pos howned, ReaderTask.next, Subscription.nextEvent, hevents]
  by_cases hstage : t.stage.announced?.isSome = true
  · have hstate : t.subscription.reader.state = .closed := hclosed hstage
    simp [hstate]
  · by_cases hstate : t.subscription.reader.state = .closed <;> simp [hstate, hstage]

private theorem nextMessage_of_nil {s : Subscription} (h : s.reader.events = []) :
    s.nextMessage = (if s.reader.state = .closed then .ended else .waiting, s) := by
  obtain ⟨topic, url, ⟨key, state, events, sentClose, log⟩, closing⟩ := s
  obtain rfl : events = [] := h
  rfl

private theorem nextMessage_of_cons {s : Subscription} {e : Event}
    (h : s.reader.events = e :: rest) :
    s.nextMessage = match e.message? with
      | some m => (.ready m, s.pop rest)
      | none => (s.pop rest).nextMessage := by
  obtain ⟨topic, url, ⟨key, state, events, sentClose, log⟩, closing⟩ := s
  obtain rfl : events = e :: rest := h
  cases e <;> rfl

/-- A call for the next message that takes what is there takes what `Subscription.nextMessage`
takes, answers what it says, and has to wait if that is not enough. -/
theorem exists_run_message (hplace : o.place = .taking .message) (howned : o.task.owned = true)
    (hclosed : o.task.stage.announced?.isSome = true → o.task.subscription.state = .closed) :
    ∃ n u more, machine.run o (List.replicate n .take) = some (u, more) ∧
      u.task = { o.task with subscription := o.task.subscription.nextMessage.2 } ∧
      answersOf more = (messageAnswer? o.task).toList ∧
      (messageAnswer? o.task = none → u.place = o.place ∧ machine u .take = none) := by
  generalize hevents : o.task.subscription.reader.events = events
  -- The induction is on the events that are there: each of them but a message is passed over.
  induction events generalizing o with
  | nil =>
    have hnext := next_of_nil howned hclosed hevents
    have hanswer : messageAnswer? o.task =
        if o.task.stage.announced?.isSome then some (.message none) else none := by
      rw [messageAnswer?, nextMessage_of_nil hevents]
      by_cases hstate : o.task.subscription.reader.state = .closed <;> simp [hstate]
    rw [hanswer, nextMessage_of_nil hevents]
    by_cases hstage : o.task.stage.announced?.isSome = true
    · rw [if_pos hstage] at hnext ⊢
      refine ⟨1, { o with place := .idle }, [.took .message none, .gave (.message none)], ?_, rfl,
        rfl, by simp⟩
      exact machine.run_singleton.mpr (by simp [machine, take, hplace, hnext, Way.answer?,
        ReaderTask.gotOf])
    · rw [if_neg hstage] at hnext ⊢
      exact ⟨0, o, [], rfl, rfl, rfl, fun _ => ⟨rfl, by simp [machine, take, hplace, hnext]⟩⟩
  | cons e rest ih =>
    have hnext := next_of_cons howned hevents
    let popped : ReaderTask := { o.task with subscription := o.task.subscription.pop rest }
    have hmessage := nextMessage_of_cons hevents
    cases he : e.message? with
    | some m =>
      rw [he] at hmessage
      have hanswer : messageAnswer? o.task = some (.message (some m)) := by
        rw [messageAnswer?, hmessage]
      rw [hanswer, hmessage]
      refine ⟨1, { task := popped, place := .idle },
        [.took .message (some e), .gave (.message (some m))], machine.run_singleton.mpr ?_, rfl,
        rfl, by simp⟩
      simp [machine, take, hplace, hnext, Way.answer?, ReaderTask.gotOf, he, popped]
    | none =>
      rw [he] at hmessage
      have hanswer : messageAnswer? o.task = messageAnswer? popped := by
        rw [messageAnswer?, messageAnswer?, hmessage]
      have htake : machine o .take =
          some ({ o with task := popped }, [.took .message (some e)]) := by
        simp [machine, take, hplace, hnext, Way.answer?, ReaderTask.gotOf, he, popped]
      obtain ⟨n, u, more, hrun, htask, hmore, hwaits⟩ :=
        ih (o := { o with task := popped }) hplace howned hclosed rfl
      refine ⟨n + 1, u, .took .message (some e) :: more, ?_, htask.trans (by rw [hmessage]), ?_, ?_⟩
      · exact machine.run_append (machine.run_singleton.mpr htake) hrun
      · rw [hanswer, ← hmore]
        rfl
      · rw [hanswer]
        exact hwaits

/-! ### A shutdown that nothing comes between -/

private theorem reader_foldl_receive {s : Subscription} (h : s.closing = true)
    (signals : List Signal) :
    (signals.foldl Subscription.receive s).reader = s.reader.run signals := by
  induction signals generalizing s with
  | nil => rfl
  | cons signal rest ih =>
    have hreceive : s.receive signal = { s with reader := s.reader.react signal } :=
      if_neg (by simp [h])
    rw [List.foldl_cons, hreceive]
    exact ih h

private theorem endOf_append_of_some {before : List Signal} (h : endOf before = some reason)
    (after : List Signal) : endOf (before ++ after) = some reason := by
  rw [endOf, List.findSome?_append, ← endOf, h, Option.some_or]

/-- A task that has left its loop has done so for the reason in the signals that it took since it
was in its loop, with a request to stop behind them. -/
private theorem endOf_stop {asked : Prop} {before after : List Signal}
    (h : ReaderTask.Left asked (before ++ after) (some reason)) (hbefore : endOf before = none) :
    endOf (after ++ [.stop]) = some reason := by
  cases h with
  | asked hasked hall =>
    rw [endOf_append hbefore] at hall
    rw [endOf_append hall]
    rfl
  | ended hall hgoing hending hreason =>
    refine endOf_append_of_some ?_ _
    rw [← endOf_append hbefore, hall, endOf_append hgoing, endOf_cons_of_ending hending]

private theorem shutdown_of_closed {s : Subscription} (h : s.reader.state = .closed)
    (signals : List Signal) : s.shutdown signals = Subscription.lastReason s.reader.events := by
  rw [Subscription.shutdown, reader_foldl_receive rfl,
    Reader.run_of_closed (r := s.close.reader) h]
  rfl

private theorem shutdown_of_open {s : Subscription} (h : s.reader.state ≠ .closed)
    {signals : List Signal} (hend : endOf (signals ++ [.stop]) = some reason) :
    s.shutdown signals = some reason := by
  rw [Subscription.shutdown, reader_foldl_receive rfl,
    (Reader.run_of_open (r := s.close.reader) h _).1, hend]
  exact lastReason_concat _ _

/-- Nobody but the shutdown takes behind it. -/
private theorem takenOf_of_isLast (hlast : o.place.isLast = true)
    (h : machine.run o moves = some (u, notes)) : takenOf notes = [] := by
  refine (Machine.run_induction
    (motive := fun _ u notes => u.place.isLast = true ∧ takenOf notes = []) ⟨hlast, rfl⟩ ?_ h).2
  rintro _ o notes move u more - ⟨hlast, hnone⟩ hstep
  rw [takenOf_append, hnone]
  cases change_of_machine hstep with
  | task => exact ⟨hlast, takenOf_task _⟩
  | drop | leave => exact ⟨rfl, rfl⟩
  | call hplace | close hplace | shutdown hplace | answer hplace | pass hplace | cancel hplace =>
    rw [hplace] at hlast
    cases hlast

private theorem ended_of_run {t v : ReaderTask} {inner : List ReaderTask.Move}
    {seen : List ReaderTask.Note} (hstage : t.stage = .ended reason)
    (h : ReaderTask.machine.run t inner = some (v, seen)) : v.stage = .ended reason := by
  refine Machine.run_induction (motive := fun _ v _ => v.stage = .ended reason) hstage ?_ h
  intro _ t _ move v _ _ ht hstep
  cases ReaderTask.change_of_machine hstep with
  | leave hstage | emit hstage | heed hstage | part hstage | settle hstage | announce hstage =>
    rw [ht] at hstage
    cases hstage
  | _ => exact ht

/-- A shutdown answers what `Subscription.shutdown` says of the signals that the reader takes in the
meantime, if the reader is in its loop or at its end when the shutdown begins. -/
theorem reason_eq_shutdown (h : machine.run (start topic url) moves = some (o, notes))
    (hstage : o.task.stage = .reading ∨ o.task.stage.announced?.isSome = true)
    (hlater : machine.run o (.shutdown :: later) = some (u, more)) {found : Option CloseReason}
    (hfound : found ∈ reasonsOf more) :
    found = o.task.subscription.shutdown (ReaderTask.takenOf (innerOf more)) := by
  have hrun := machine.run_append h hlater
  have hall : found ∈ reasonsOf (notes ++ more) := by
    rw [reasonsOf_append]
    exact List.mem_append_right _ hfound
  obtain ⟨reason, hended, hfound⟩ := reason_eq hrun hall
  obtain ⟨p, first, rest, hshutdown, hrest, rfl⟩ := machine.run_cons_eq_some.mp hlater
  cases change_of_machine hshutdown with
  | shutdown hidle howned =>
    have hkept : takenOf notes ++ o.task.reader.events =
        .opened :: ReaderTask.emittedOf (innerOf notes) := by
      have hagrees := (accounts_of_run h).agrees
      rw [hidle] at hagrees
      rw [← taken_append_dropped h, hagrees.1, List.append_nil]
    have htaken : takenOf (notes ++ ([] ++ rest)) = takenOf notes := by
      rw [List.nil_append, takenOf_append, takenOf_of_isLast rfl hrest, List.append_nil]
    rw [htaken] at hfound
    obtain ⟨-, hreached, -⟩ := reached_of_run h
    rw [hreached.emitted_eq] at hkept
    rcases hstage with hreading | hannounced
    case inl =>
      have hopen : o.task.subscription.reader.state ≠ .closed := fun hclosed =>
        by cases (hreached.of_reading hreading).2.2.2.symm.trans hclosed
      have hleft := (reached_of_run hrun).2.1.left
      rw [hended, innerOf_append, ReaderTask.takenOf_append] at hleft
      have hnot : Event.closed reason ∉ takenOf notes := fun hmem => by
        have hmem := hkept ▸ List.mem_append_left _ hmem
        simp [hreading, Stage.announced?, closings] at hmem
      rw [hfound, if_neg hnot,
        shutdown_of_open hopen (endOf_stop hleft (hreached.of_reading hreading).1)]
    case inr =>
      have hclosed := closed_of_announced hreached hannounced
      cases hstage : o.task.stage with
      | ended earlier =>
        obtain rfl : earlier = reason := by
          have hlater : u.task.stage = .ended earlier :=
            ended_of_run (t := o.task.ask) hstage (run_inner hrest)
          exact Stage.ended.inj (hlater.symm.trans hended)
        rw [hstage] at hkept
        rw [hfound, shutdown_of_closed hclosed]
        exact (lastReason_of_append hkept).symm
      | _ => simp [hstage, Stage.announced?] at hannounced

/-! ### All calls together -/

private theorem message?_stream (messages : List Message) (reason : Option CloseReason) :
    (Event.opened :: messages.map Event.message ++ closings reason).filterMap Event.message? =
      messages := by
  have hclosings : (closings reason).filterMap Event.message? = [] := by cases reason <;> rfl
  have hmessages : (messages.map Event.message).filterMap Event.message? = messages := by
    simp [List.filterMap_map, Function.comp_def, Event.message?]
  rw [List.filterMap_append, hclosings, List.append_nil,
    List.filterMap_cons_none (show Event.message? .opened = none from rfl), hmessages]

/-- **Nothing is lost and nothing comes twice.** For every mix of calls, in whatever order the
connection, the task of the reader and the owner make their steps:

* what the calls took, then what the shutdown took, then what waits is the stream of the reader:
  that it opened, the messages among the signals that it took, and that it closed if it has;
* calls for the next event and for the next one of the stream can stand for each other, each time;
* a call for an event answers with what it took, and the messages in the answers are those that were
  taken before the shutdown, the first ones of the subscription;
* a call says that there is nothing more only if everything up to the last event was taken, and it
  has to wait only if nothing is there and the reader has not come to its end;
* when the close has been asked for, asking for it again, at any later moments, changes nothing;
* the shutdown answers with the reason of the close, unless a call took that event before. By the
  steps of the task and its own alone it comes to its end, and then it has answered once;
* a call for the next message takes and answers, of what is there, what `Subscription.nextMessage`
  does, and the shutdown answers what `Subscription.shutdown` does. -/
theorem takes_each_event_once (h : machine.run (start topic url) moves = some (o, notes)) :
    (∃ messages : List Message,
      messages = (ReaderTask.takenOf (innerOf notes)).filterMap (Signal.message? topic.displayKey) ∧
      takenOf notes ++ droppedOf notes ++ o.task.reader.events =
        .opened :: messages.map .message ++ closings o.task.stage.announced? ∧
      (answersOf notes).filterMap Answer.message? = (takenOf notes).filterMap Event.message? ∧
      (answersOf notes).filterMap Answer.message? <+: messages ∧
      ∀ u more answer, machine o .take = some (u, more) → answer ∈ answersOf more →
        answer.isEnd = true → ∃ reason, o.task.stage = .ended reason ∧
          takenOf notes = .opened :: messages.map .message ++ [.closed reason]) ∧
    (∀ other, other.map Move.plain = moves.map Move.plain →
      ∃ p more, machine.run (start topic url) other = some (p, more) ∧ p.plain = o.plain ∧
        more.map Note.plain = notes.map Note.plain) ∧
    (answersOf notes).filterMap Answer.event? = seenOf notes ∧
    (o.place ≠ .idle ∧ o.place ≠ .gone →
      (machine o .take = none ↔ o.task.reader.events = [] ∧ o.task.stage.announced? = none)) ∧
    (.close ∈ moves → (o.place = .idle → machine o .close = some (o, [])) ∧
      ∀ later u more, machine.run o later = some (u, more) →
        machine.run o (later.filter (· ≠ .close)) = some (u, more)) ∧
    (∀ found ∈ reasonsOf notes, ∃ reason, o.task.stage = .ended reason ∧
      found = if .closed reason ∈ takenOf notes then none else some reason) ∧
    (∀ found later u more, o.place = .leaving found → machine.run o later = some (u, more) →
      (∀ move ∈ later, move.isOwn = true) →
        later.length ≤ 2 * o.task.unread.length + o.task.reader.events.length + 9 ∧
        ((∀ move, move.isOwn = true → machine u move = none) →
          ∃ answered, reasonsOf (notes ++ more) = [answered])) ∧
    (o.place = .idle → ∃ n u more,
      machine.run o (.call .message :: List.replicate n .take) = some (u, more) ∧
        u.task = { o.task with subscription := o.task.subscription.nextMessage.2 } ∧
        answersOf more = (messageAnswer? o.task).toList ∧
        (messageAnswer? o.task = none → machine u .take = none)) ∧
    (o.task.stage = .reading ∨ o.task.stage.announced?.isSome = true → ∀ later u more,
      machine.run o (.shutdown :: later) = some (u, more) → ∀ found ∈ reasonsOf more,
        found = o.task.subscription.shutdown (ReaderTask.takenOf (innerOf more))) := by
  have haccounts := accounts_of_run h
  obtain ⟨hheard, hreached, -⟩ := reached_of_run h
  have howned := owned_of_run h
  have hstream := (taken_append_dropped h).trans (congrArg _ hreached.emitted_eq)
  refine ⟨⟨_, rfl, hstream, haccounts.messages_eq, ?first,
      fun u more answer hstep hmem hend => ended_of_answer h hstep hmem hend⟩,
    fun other hother => exists_run_of_plain_eq hother h, haccounts.events_eq,
    fun hplace => take_eq_none h hplace, ?close, fun found hfound => reason_eq h hfound, ?shutdown,
    ?message, fun hstage later u more hlater found hfound =>
      reason_eq_shutdown h hstage hlater hfound⟩
  case first =>
    have hmessages := congrArg (List.filterMap Event.message?) hstream
    rw [List.append_assoc, List.filterMap_append, ← haccounts.messages_eq] at hmessages
    exact ⟨_, hmessages.trans (message?_stream _ _)⟩
  case close =>
    intro hclose
    have hclosing : o.task.subscription.closing = true :=
      hheard.closing_iff.mpr (.inl (List.mem_flatMap.mpr ⟨_, hclose, List.mem_singleton_self _⟩))
    exact ⟨fun hplace => close_of_closing hplace howned hclosing,
      fun later u more hlater => run_filter_close hclosing hlater⟩
  case shutdown =>
    intro found later u more hplace hlater hown
    obtain ⟨hle, hgone⟩ := shutdown_of_own h (by rw [hplace]; rfl) hlater hown
    have hstage : o.task.stage.stepsLeft ≤ 4 := by cases o.task.stage <;> simp [Stage.stepsLeft]
    have hbudget : o.stepsLeft =
        2 * (o.task.unread.length + o.task.stage.stepsLeft) + o.task.reader.events.length + 1 := by
      rw [stepsLeft, hplace]
      rfl
    refine ⟨by omega, fun hstuck => ?_⟩
    · have hagrees := (accounts_of_run (machine.run_append h hlater)).agrees
      rw [hgone hstuck] at hagrees
      exact ⟨_, hagrees.1⟩
  case message =>
    intro hplace
    have hcall : machine o (.call .message) = some ({ o with place := .taking .message }, []) :=
      if_pos hplace
    obtain ⟨n, u, more, hrun, htask, hanswers, hwaits⟩ :=
      exists_run_message (o := { o with place := .taking .message }) rfl howned
        (closed_of_announced hreached)
    exact ⟨n, u, more, machine.run_append (machine.run_singleton.mpr hcall) hrun, htask, hanswers,
      fun hnone => (hwaits hnone).2⟩

/-- A subscription whose owner takes from it in all ways, asks for the close twice, gives a call up,
and shuts the subscription down while a message has not been taken. -/
def visit : List Move :=
  [.call .stream, .take, .task (.arrive (.frame (.binary [1]))), .task .read, .call .message, .take,
    .close, .close, .call .event, .cancel, .task (.arrive (.frame (.binary [2]))), .task .read,
    .shutdown, .take, .task .heed, .task .proceed, .task .proceed, .task .proceed, .take, .take]

/-- The owner gets each event once, and the reason of the close at the end. -/
theorem takes_each_event_once_of_visit :
    ∃ o notes, machine.run (start ⟨"a", none, none, []⟩ Topic.belowSlashed)
        visit = some (o, notes) ∧
      answersOf notes = [.event (some .opened), .message (some ⟨"a", .binary [1]⟩),
        .reason (some .requested)] ∧
      takenOf notes ++ droppedOf notes ++ o.task.reader.events =
        [.opened, .message ⟨"a", .binary [1]⟩, .message ⟨"a", .binary [2]⟩, .closed .requested] ∧
      (answersOf notes).filterMap Answer.message? = (takenOf notes).filterMap Event.message? ∧
      ∃ reason, o.task.stage = .ended reason ∧
        some .requested = if .closed reason ∈ takenOf notes then none else some reason := by
  have hrun : (machine.run (start ⟨"a", none, none, []⟩
      Topic.belowSlashed) visit).map
        (fun (o, notes) => (answersOf notes, o.task.stage,
          (ReaderTask.takenOf (innerOf notes)).filterMap (Signal.message? "a"))) =
      some ([.event (some .opened), .message (some ⟨"a", .binary [1]⟩), .reason (some .requested)],
        .ended .requested, [⟨"a", .binary [1]⟩, ⟨"a", .binary [2]⟩]) := by
    decide +kernel
  obtain ⟨⟨o, notes⟩, hrun, hseen⟩ := Option.map_eq_some_iff.mp hrun
  simp only [Prod.mk.injEq] at hseen
  obtain ⟨hanswers, hstage, hmessages⟩ := hseen
  obtain ⟨⟨messages, hall, hstream, hanswered, -⟩, -, -, -, -, hreason, -⟩ :=
    takes_each_event_once hrun
  refine ⟨o, notes, hrun, hanswers, ?_, hanswered, hreason _ ?_⟩
  · rw [hstream, hall, hstage]
    exact congrArg (fun messages => Event.opened :: messages.map Event.message ++ _) hmessages
  · rw [reasonsOf, hanswers]
    exact List.mem_singleton_self _

end FeedRelay.Feed.Owner
