import FeedRelay.Proofs.Feed.EventStream

/-!
# The calls of the owner of a subscription

The owner of a subscription takes events from it in several ways: the next event, the next one of
the stream, or the next message, for which it passes over other events. A call takes one event after
another until it can answer (`Owner.Way.answer?`). It may have to wait for the next event, the
reader may go on between two events that it takes, and it may be given up while it waits. Between
two calls the owner may ask for the close. At last it may shut the subscription down: it asks for
the close, takes all events that come, keeps the reason of the close among them, and answers at the
end.

What an owner does to the task of the reader is made up of moves of the machine of tasks
(`Owner.run_inner`), so that what holds of tasks holds here (`Owner.reached_of_run`). A call for the
next message, or a shutdown, that nothing comes between is `Subscription.nextMessage`, or
`Subscription.shutdown` (`Owner.exists_run_message`, `Owner.reason_eq_shutdown`).
-/

namespace FeedRelay.Feed

/-- The message in an event. -/
def Event.message? : Event → Option Message
  | .message m => some m
  | _ => none

/-- The reason in an event that closes. -/
def Event.reason? : Event → Option CloseReason
  | .closed reason => some reason
  | _ => none

/-- Whether a move of a task is one of its owner. -/
def ReaderTask.Move.isOwners : ReaderTask.Move → Bool
  | .close | .drop | .next => true
  | _ => false

namespace Owner

/-- The calls that may be made again and again: for the next event, for the next one of the stream,
and for the next message. -/
inductive Way where
  | event
  | stream
  | message
  deriving DecidableEq

/-- What a call answers. There is nothing in an answer that says that the events have ended. -/
inductive Answer where
  | event (item : Option Event)
  | message (item : Option Message)
  | reason (found : Option CloseReason)
  deriving DecidableEq

/-- What a call answers when an event comes, or the end of the events; `none` if it waits for
more. -/
def Way.answer? : Way → Option Event → Option Answer
  | .event, item | .stream, item => some (.event item)
  | .message, none => some (.message none)
  | .message, some e => e.message?.map fun m => .message (some m)

/-- Where an owner is: between two calls, in a call, in the shutdown with the reason that it has
found so far, or behind it. -/
inductive Place where
  | idle
  | taking (way : Way)
  | leaving (found : Option CloseReason)
  | gone
  deriving DecidableEq

end Owner

/-- An owner of a subscription: the task of the reader, and where the owner is. -/
structure Owner where
  task : ReaderTask
  place : Owner.Place

namespace Owner

/-- A move of the connection or of the task; the owner makes a call, asks for the close, shuts the
subscription down, takes what comes next, or gives a call up. -/
inductive Move where
  | task (move : ReaderTask.Move)
  | call (way : Way)
  | close
  | shutdown
  | take
  | cancel
  deriving DecidableEq

/-- What a move leaves: what the connection and the task note, what a call took, an event or the end
of the events, what the shutdown took, or an answer. -/
inductive Note where
  | task (note : ReaderTask.Note)
  | took (way : Way) (item : Option Event)
  | dropped (item : Option Event)
  | gave (answer : Answer)
  deriving DecidableEq

/-- What a move is to the task. -/
def Move.inner : Move → List ReaderTask.Move
  | .task move => [move]
  | .close | .shutdown => [.close]
  | .take => [.next]
  | .call _ | .cancel => []

/-- What the task notes when its owner takes what comes next. -/
def itemNote : Option Event → ReaderTask.Note
  | some event => .got event
  | none => .finished

/-- What a note is to the task. -/
def Note.inner : Note → List ReaderTask.Note
  | .task note => [note]
  | .took _ item | .dropped item => [itemNote item]
  | .gave _ => []

/-- The notes of the task. -/
def innerOf (notes : List Note) : List ReaderTask.Note :=
  notes.flatMap Note.inner

/-- The events that the calls took. -/
def takenOf (notes : List Note) : List Event :=
  notes.filterMap fun
    | .took _ item => item
    | _ => none

/-- The events that the calls for events took. -/
def seenOf (notes : List Note) : List Event :=
  notes.filterMap fun
    | .took .event item | .took .stream item => item
    | _ => none

/-- The events that the shutdown took. -/
def droppedOf (notes : List Note) : List Event :=
  notes.filterMap fun
    | .dropped item => item
    | _ => none

/-- The answers of the calls. -/
def answersOf (notes : List Note) : List Answer :=
  notes.filterMap fun
    | .gave answer => some answer
    | _ => none

/-- The event in an answer. -/
def Answer.event? : Answer → Option Event
  | .event item => item
  | _ => none

/-- The message in an answer, on its own or in an event. -/
def Answer.message? : Answer → Option Message
  | .event item => item.bind Event.message?
  | .message item => item
  | .reason _ => none

/-- The reason in the answer of the shutdown, if it is one. -/
def Answer.reason? : Answer → Option (Option CloseReason)
  | .reason found => some found
  | _ => none

/-- The answers of the shutdown. -/
def reasonsOf (notes : List Note) : List (Option CloseReason) :=
  (answersOf notes).filterMap Answer.reason?

/-- Whether an answer of a call says that there are no more events. -/
def Answer.isEnd : Answer → Bool
  | .event none | .message none => true
  | _ => false

/-- The owner of a connection that has just been opened. -/
def start (topic : Topic) (url : Url) : Owner where
  task := .start topic url
  place := .idle

/-- Ask for the close between two calls, and go to a place. -/
def ask (o : Owner) (place : Place) : Option (Owner × List Note) :=
  if o.place = .idle then
    (ReaderTask.machine o.task .close).map fun (task, _) => ({ task, place }, [])
  else none

/-- Take what comes next, if something comes. -/
def take (o : Owner) : Option (Owner × List Note) :=
  match o.place with
  | .idle | .gone => none
  | .taking way =>
    (ReaderTask.machine o.task .next).map fun (task, notes) =>
      let item := (ReaderTask.gotOf notes).head?
      match way.answer? item with
      | some answer => ({ task, place := .idle }, [.took way item, .gave answer])
      | none => ({ task, place := .taking way }, [.took way item])
  | .leaving found =>
    (ReaderTask.machine o.task .next).map fun (task, notes) =>
      match (ReaderTask.gotOf notes).head? with
      | some e => ({ task, place := .leaving (e.reason?.or found) }, [.dropped (some e)])
      | none => ({ task, place := .gone }, [.dropped none, .gave (.reason found)])

/-- The machine of owners. -/
def machine : Machine Owner Move Note
  | o, .task move =>
    if move.isOwners then none
    else (ReaderTask.machine o.task move).map fun (task, notes) =>
      ({ o with task }, notes.map .task)
  | o, .call way => if o.place = .idle then some ({ o with place := .taking way }, []) else none
  | o, .close => o.ask .idle
  | o, .shutdown => o.ask (.leaving none)
  | o, .take => o.take
  | o, .cancel =>
    match o.place with
    | .taking _ => some ({ o with place := .idle }, [])
    | _ => none

variable {topic : Topic} {url : Url} {o u : Owner} {task : ReaderTask} {move : Move}
  {moves : List Move} {notes more : List Note} {way : Way} {item : Option Event} {answer : Answer}

/-! ### What a move can do -/

/-- What a move does: the connection or the task makes one; the owner makes a call, asks for the
close, or shuts the subscription down; what a call takes answers it or does not; the shutdown takes
an event or sees the end; a call is given up. -/
inductive Change (o : Owner) : Move → Owner → List Note → Prop
  | task {move : ReaderTask.Move} {task : ReaderTask} {notes : List ReaderTask.Note}
      (hmove : move.isOwners = false)
      (hstep : ReaderTask.machine o.task move = some (task, notes)) :
      Change o (.task move) { o with task } (notes.map .task)
  | call {way : Way} (hplace : o.place = .idle) :
      Change o (.call way) { o with place := .taking way } []
  | close (hplace : o.place = .idle) (howned : o.task.owned = true) :
      Change o .close { o with task := o.task.ask } []
  | shutdown (hplace : o.place = .idle) (howned : o.task.owned = true) :
      Change o .shutdown { task := o.task.ask, place := .leaving none } []
  | answer {way : Way} {task : ReaderTask} {item : Option Event} {answer : Answer}
      (hplace : o.place = .taking way)
      (hnext : ReaderTask.machine o.task .next = some (task, [itemNote item]))
      (hanswer : way.answer? item = some answer) :
      Change o .take { task, place := .idle } [.took way item, .gave answer]
  | pass {way : Way} {task : ReaderTask} {item : Option Event} (hplace : o.place = .taking way)
      (hnext : ReaderTask.machine o.task .next = some (task, [itemNote item]))
      (hanswer : way.answer? item = none) :
      Change o .take { task, place := .taking way } [.took way item]
  | drop {found : Option CloseReason} {task : ReaderTask} {event : Event}
      (hplace : o.place = .leaving found)
      (hnext : ReaderTask.machine o.task .next = some (task, [itemNote (some event)])) :
      Change o .take { task, place := .leaving (event.reason?.or found) } [.dropped (some event)]
  | leave {found : Option CloseReason} {task : ReaderTask} (hplace : o.place = .leaving found)
      (hnext : ReaderTask.machine o.task .next = some (task, [itemNote none])) :
      Change o .take { task, place := .gone } [.dropped none, .gave (.reason found)]
  | cancel {way : Way} (hplace : o.place = .taking way) :
      Change o .cancel { o with place := .idle } []

/-- What comes next for an owner is an event or the end. -/
private theorem exists_itemNote {t u : ReaderTask} {notes : List ReaderTask.Note}
    (h : ReaderTask.machine t .next = some (u, notes)) :
    ∃ item, notes = [itemNote item] ∧ (ReaderTask.gotOf notes).head? = item := by
  cases ReaderTask.change_of_machine h with
  | @got event => exact ⟨some event, rfl, rfl⟩
  | finish => exact ⟨none, rfl, rfl⟩

private theorem ask_eq_some {place : Place} (h : o.ask place = some (u, notes)) :
    o.place = .idle ∧ o.task.owned = true ∧ u = { task := o.task.ask, place } ∧ notes = [] := by
  obtain ⟨hplace, h⟩ := Option.ite_none_right_eq_some.mp h
  obtain ⟨⟨task, inner⟩, hclose, heq⟩ := Option.map_eq_some_iff.mp h
  obtain ⟨rfl, rfl⟩ := Prod.mk.inj heq
  cases ReaderTask.change_of_machine hclose with
  | close howned => exact ⟨hplace, howned, rfl, rfl⟩

private theorem change_take (h : o.take = some (u, notes)) : Change o .take u notes := by
  unfold take at h
  cases hplace : o.place with
  | idle | gone => simp [hplace] at h
  | taking way =>
    simp only [hplace] at h
    obtain ⟨⟨task, inner⟩, hnext, heq⟩ := Option.map_eq_some_iff.mp h
    obtain ⟨item, rfl, hitem⟩ := exists_itemNote hnext
    simp only [hitem] at heq
    cases hanswer : way.answer? item with
    | some answer =>
      rw [hanswer] at heq
      obtain ⟨rfl, rfl⟩ := Prod.mk.inj heq
      exact .answer hplace hnext hanswer
    | none =>
      rw [hanswer] at heq
      obtain ⟨rfl, rfl⟩ := Prod.mk.inj heq
      exact .pass hplace hnext hanswer
  | leaving found =>
    simp only [hplace] at h
    obtain ⟨⟨task, inner⟩, hnext, heq⟩ := Option.map_eq_some_iff.mp h
    obtain ⟨item, rfl, hitem⟩ := exists_itemNote hnext
    simp only [hitem] at heq
    cases item with
    | some event =>
      obtain ⟨rfl, rfl⟩ := Prod.mk.inj heq
      exact .drop hplace hnext
    | none =>
      obtain ⟨rfl, rfl⟩ := Prod.mk.inj heq
      exact .leave hplace hnext

/-- All that a move can do. -/
theorem change_of_machine (h : machine o move = some (u, notes)) : Change o move u notes := by
  cases move with
  | task move =>
    obtain ⟨hmove, h⟩ := Option.ite_none_left_eq_some.mp h
    obtain ⟨⟨task, inner⟩, hstep, heq⟩ := Option.map_eq_some_iff.mp h
    obtain ⟨rfl, rfl⟩ := Prod.mk.inj heq
    exact .task (Bool.eq_false_iff.mpr hmove) hstep
  | call way =>
    obtain ⟨hplace, h⟩ := Option.ite_none_right_eq_some.mp h
    obtain ⟨rfl, rfl⟩ := Prod.mk.inj (Option.some.inj h)
    exact .call hplace
  | close =>
    obtain ⟨hplace, howned, rfl, rfl⟩ := ask_eq_some h
    rw [← hplace]
    exact .close hplace howned
  | shutdown =>
    obtain ⟨hplace, howned, rfl, rfl⟩ := ask_eq_some h
    exact .shutdown hplace howned
  | take => exact change_take h
  | cancel =>
    rw [machine] at h
    split at h
    · obtain ⟨rfl, rfl⟩ := Prod.mk.inj (Option.some.inj h)
      exact .cancel ‹_›
    · cases h

/-! ### The task of an owner -/

@[simp] theorem innerOf_append (notes more : List Note) :
    innerOf (notes ++ more) = innerOf notes ++ innerOf more :=
  List.flatMap_append

@[simp] theorem takenOf_append (notes more : List Note) :
    takenOf (notes ++ more) = takenOf notes ++ takenOf more :=
  List.filterMap_append

@[simp] theorem seenOf_append (notes more : List Note) :
    seenOf (notes ++ more) = seenOf notes ++ seenOf more :=
  List.filterMap_append

@[simp] theorem droppedOf_append (notes more : List Note) :
    droppedOf (notes ++ more) = droppedOf notes ++ droppedOf more :=
  List.filterMap_append

@[simp] theorem answersOf_append (notes more : List Note) :
    answersOf (notes ++ more) = answersOf notes ++ answersOf more :=
  List.filterMap_append

@[simp] theorem reasonsOf_append (notes more : List Note) :
    reasonsOf (notes ++ more) = reasonsOf notes ++ reasonsOf more := by
  rw [reasonsOf, answersOf_append, List.filterMap_append, ← reasonsOf, ← reasonsOf]

@[simp] theorem innerOf_task (notes : List ReaderTask.Note) :
    innerOf (notes.map .task) = notes := by
  simp [innerOf, List.flatMap_map, Note.inner]

@[simp] theorem takenOf_task (notes : List ReaderTask.Note) : takenOf (notes.map .task) = [] := by
  simp [takenOf, List.filterMap_map]

@[simp] theorem seenOf_task (notes : List ReaderTask.Note) : seenOf (notes.map .task) = [] := by
  simp [seenOf, List.filterMap_map]

@[simp] theorem droppedOf_task (notes : List ReaderTask.Note) :
    droppedOf (notes.map .task) = [] := by
  simp [droppedOf, List.filterMap_map]

@[simp] theorem answersOf_task (notes : List ReaderTask.Note) :
    answersOf (notes.map .task) = [] := by
  simp [answersOf, List.filterMap_map]

/-- What a move is to the task, the task does. -/
theorem inner_of_machine (h : machine o move = some (u, notes)) :
    ReaderTask.machine.run o.task move.inner = some (u.task, innerOf notes) := by
  cases change_of_machine h with
  | task hmove hstep =>
    rw [innerOf_task]
    exact ReaderTask.machine.run_singleton.mpr hstep
  | call | cancel => rfl
  | close hplace howned | shutdown hplace howned =>
    exact ReaderTask.machine.run_singleton.mpr (if_pos howned)
  | answer hplace hnext | pass hplace hnext | drop hplace hnext | leave hplace hnext =>
    exact ReaderTask.machine.run_singleton.mpr hnext

/-- A run of an owner is a run of the task. -/
theorem run_inner (h : machine.run o moves = some (u, notes)) :
    ReaderTask.machine.run o.task (moves.flatMap Move.inner) = some (u.task, innerOf notes) :=
  Machine.run_simulated (f := Owner.task) (g := Move.inner) (fun hstep => inner_of_machine hstep) h

/-- What holds of the task of an owner after a run. -/
theorem reached_of_run (h : machine.run (start topic url) moves = some (o, notes)) :
    ReaderTask.Heard (moves.flatMap Move.inner) o.task ∧
      ReaderTask.Reached topic (moves.flatMap Move.inner) o.task (innerOf notes) ∧
      ReaderTask.Served o.task (innerOf notes) :=
  ReaderTask.reached_of_run (run_inner h)

/-- An owner does not drop its subscription. -/
theorem owned_of_machine (h : machine o move = some (u, notes)) :
    u.task.owned = o.task.owned := by
  have hkeep {t u : ReaderTask} {move : ReaderTask.Move} {notes : List ReaderTask.Note}
      (hdrop : move ≠ .drop) (hstep : ReaderTask.machine t move = some (u, notes)) :
      u.owned = t.owned := by
    cases ReaderTask.change_of_machine hstep with
    | drop => exact absurd rfl hdrop
    | _ => rfl
  cases change_of_machine h with
  | task hmove hstep => exact hkeep (by rintro rfl; cases hmove) hstep
  | answer hplace hnext | pass hplace hnext | drop hplace hnext | leave hplace hnext =>
    exact hkeep (by simp) hnext
  | _ => rfl

theorem owned_of_run (h : machine.run (start topic url) moves = some (o, notes)) :
    o.task.owned = true :=
  Machine.run_induction (motive := fun _ o _ => o.task.owned = true) rfl
    (fun _ ho hstep => (owned_of_machine hstep).trans ho) h

/-! ### What the calls have taken and answered -/

/-- What the place of an owner says of the notes: nothing is dropped before the shutdown, which has
found the last reason among what it took, and answers once, with what it has found when it has seen
the end. -/
def Place.Agrees : Place → List Note → Prop
  | .idle, notes | .taking _, notes => droppedOf notes = [] ∧ reasonsOf notes = []
  | .leaving found, notes =>
    found = Subscription.lastReason (droppedOf notes) ∧ reasonsOf notes = []
  | .gone, notes =>
    reasonsOf notes = [Subscription.lastReason (droppedOf notes)] ∧ .finished ∈ innerOf notes

/-- What an owner has taken and what its calls have answered: the shutdown takes behind the calls, a
call for events answers with what it took, and all calls together answer with the messages among
what they took. A call says that there is nothing more when it has seen the end. -/
structure Accounts (o : Owner) (notes : List Note) : Prop where
  got_eq : ReaderTask.gotOf (innerOf notes) = takenOf notes ++ droppedOf notes
  agrees : o.place.Agrees notes
  events_eq : (answersOf notes).filterMap Answer.event? = seenOf notes
  messages_eq : (answersOf notes).filterMap Answer.message? =
    (takenOf notes).filterMap Event.message?
  ended : ∀ answer ∈ answersOf notes, answer.isEnd = true → .finished ∈ innerOf notes

theorem accounts_start (topic : Topic) (url : Url) : Accounts (start topic url) [] where
  got_eq := rfl
  agrees := ⟨rfl, rfl⟩
  events_eq := rfl
  messages_eq := rfl
  ended _ h := by cases h

/-- An answer of a call has in it what came, as far as the call is for it. -/
theorem Way.answer?_spec (h : way.answer? item = some answer) :
    [answer].filterMap Answer.event? = seenOf [.took way item] ∧
      [answer].filterMap Answer.message? = item.toList.filterMap Event.message? ∧
      answer.reason? = none ∧ (answer.isEnd = true → item = none) := by
  cases way with
  | event | stream =>
    obtain rfl := Option.some.inj h
    cases item with
    | none => exact ⟨rfl, rfl, rfl, fun _ => rfl⟩
    | some e => exact ⟨rfl, by cases e <;> rfl, rfl, fun hend => by cases hend⟩
  | message =>
    cases item with
    | none =>
      obtain rfl := Option.some.inj h
      exact ⟨rfl, rfl, rfl, fun _ => rfl⟩
    | some e =>
      obtain ⟨m, hm, rfl⟩ := Option.map_eq_some_iff.mp h
      refine ⟨rfl, ?_, rfl, fun hend => by cases hend⟩
      rw [Option.toList_some, List.filterMap_cons_some hm]
      rfl

/-- Only a call for the next message does not answer, when an event comes that is none. -/
theorem Way.answer?_eq_none (h : way.answer? item = none) :
    way = .message ∧ ∃ e, item = some e ∧ e.message? = none := by
  cases way with
  | event | stream => cases h
  | message =>
    cases item with
    | none => cases h
    | some e => exact ⟨rfl, e, rfl, Option.map_eq_none_iff.mp h⟩

theorem lastReason_concat (events : List Event) (e : Event) :
    Subscription.lastReason (events ++ [e]) = e.reason?.or (Subscription.lastReason events) := by
  rw [Subscription.lastReason, List.foldl_append, ← Subscription.lastReason]
  cases e <;> rfl

/-- An account goes on with one of what a move leaves, if nothing is taken by a call behind what the
shutdown took. -/
private theorem Accounts.append (h : Accounts o notes)
    (hgot : ReaderTask.gotOf (innerOf more) = takenOf more ++ droppedOf more)
    (hbehind : droppedOf notes = [] ∨ takenOf more = []) (hagrees : u.place.Agrees (notes ++ more))
    (hevents : (answersOf more).filterMap Answer.event? = seenOf more)
    (hmessages : (answersOf more).filterMap Answer.message? =
      (takenOf more).filterMap Event.message?)
    (hended : ∀ answer ∈ answersOf more, answer.isEnd = true → .finished ∈ innerOf more) :
    Accounts u (notes ++ more) where
  got_eq := by
    rw [innerOf_append, ReaderTask.gotOf_append, h.got_eq, hgot, takenOf_append, droppedOf_append]
    rcases hbehind with hnone | hnone <;> simp [hnone]
  agrees := hagrees
  events_eq := by rw [answersOf_append, List.filterMap_append, h.events_eq, hevents, seenOf_append]
  messages_eq := by
    rw [answersOf_append, List.filterMap_append, h.messages_eq, hmessages, takenOf_append,
      List.filterMap_append]
  ended answer hmem hend := by
    rw [answersOf_append, List.mem_append] at hmem
    rw [innerOf_append, List.mem_append]
    exact hmem.imp (h.ended answer · hend) (hended answer · hend)

/-- The account after a move. -/
theorem Accounts.step (h : Accounts o notes) (hstep : machine o move = some (u, more)) :
    Accounts u (notes ++ more) := by
  have hplace := h.agrees
  cases change_of_machine hstep with
  | @task move task inner hmove hinner =>
    have hgot : ReaderTask.gotOf inner = [] := by
      cases ReaderTask.change_of_machine hinner with
      | got | finish => cases hmove
      | part => split <;> rfl
      | _ => rfl
    refine h.append (by simp [hgot]) (.inr (by simp)) ?_ (by simp) (by simp) (by simp)
    change o.place.Agrees _
    cases ho : o.place <;> simp_all [Place.Agrees, reasonsOf]
  | call hidle | close hidle howned | shutdown hidle howned | cancel htaking =>
    refine h.append rfl (.inr rfl) ?_ rfl rfl (by simp [answersOf])
    rw [List.append_nil]
    simp_all [Place.Agrees, Subscription.lastReason]
  | @answer way task item answer htaking hnext hanswer =>
    rw [htaking] at hplace
    obtain ⟨hevent, hmessage, hreason, hend⟩ := Way.answer?_spec hanswer
    refine h.append (by cases item <;> rfl) (.inl hplace.1) ⟨?_, ?_⟩ ?_ ?_ ?_
    · rw [droppedOf_append, hplace.1]
      rfl
    · rw [reasonsOf_append, hplace.2]
      simp [reasonsOf, answersOf, hreason]
    · exact hevent.trans (by cases way <;> cases item <;> rfl)
    · exact hmessage.trans (by cases item <;> rfl)
    · intro other hmem hother
      obtain rfl : other = answer := by simpa [answersOf] using hmem
      rw [hend hother]
      exact List.mem_singleton_self _
  | @pass way task item htaking hnext hanswer =>
    rw [htaking] at hplace
    obtain ⟨rfl, e, rfl, he⟩ := Way.answer?_eq_none hanswer
    refine h.append rfl (.inl hplace.1) ⟨?_, ?_⟩ rfl ?_ (by simp [answersOf])
    · rw [droppedOf_append, hplace.1]
      rfl
    · rw [reasonsOf_append, hplace.2]
      rfl
    · simp [answersOf, takenOf, he]
  | @drop found task e hleaving hnext =>
    rw [hleaving] at hplace
    refine h.append rfl (.inr rfl) ⟨?_, ?_⟩ rfl rfl (by simp [answersOf])
    · rw [droppedOf_append, hplace.1]
      exact (lastReason_concat _ e).symm
    · rw [reasonsOf_append, hplace.2]
      rfl
  | @leave found task hleaving hnext =>
    rw [hleaving] at hplace
    refine h.append rfl (.inr rfl) ⟨?_, ?_⟩ rfl rfl (by simp [answersOf, Answer.isEnd])
    · rw [droppedOf_append, reasonsOf_append, hplace.1, hplace.2]
      exact congrArg (fun dropped => [Subscription.lastReason dropped]) (List.append_nil _).symm
    · rw [innerOf_append]
      exact List.mem_append_right _ (List.mem_singleton_self _)

/-- The account of every run. -/
theorem accounts_of_run (h : machine.run (start topic url) moves = some (o, notes)) :
    Accounts o notes :=
  Machine.run_induction (motive := fun _ o notes => Accounts o notes) (accounts_start topic url)
    (fun _ h hstep => h.step hstep) h

end Owner

end FeedRelay.Feed
