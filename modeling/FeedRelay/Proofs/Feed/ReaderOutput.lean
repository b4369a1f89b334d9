import FeedRelay.Feed.Subscription
import FeedRelay.Proofs.Topic.ServiceAddress

/-!
# What a reader makes of the signals of a connection

A connection goes on until a signal ends it, and the reason lies in that signal alone
(`Signal.ending?`). So what a reader makes of a list of signals can be said without the reader:
the connection opens, the data frames before the first ending signal are messages, and if there is
an ending signal the connection closes for its reason (`Reader.events_run`). A reader that is
asked to stop may miss a part of what arrives: its messages are the first ones of those that
arrived (`messagesOf_prefix`), and all of them if the connection ends for any other reason
(`messagesOf_eq_of_endOf`).
-/

namespace FeedRelay.Feed

/-- The reason for which a signal ends a connection, if it does. -/
def Signal.ending? : Signal → Option CloseReason
  | .stop => some .requested
  | .frame (.close body) => some (.ofFrame body)
  | .frame _ => none
  | .fault text => some (.broken text)
  | .ended => some (.remote none)

/-- The message in a signal for the key of a topic: that of a data frame. -/
def Signal.message? (key : String) : Signal → Option Message
  | .frame f => Message.ofFrame? key f
  | _ => none

/-- The reason for which signals end a connection: that of the first one that does. -/
def endOf (signals : List Signal) : Option CloseReason :=
  signals.findSome? Signal.ending?

/-- The messages in the signals before the first one that ends the connection. -/
def messagesOf (key : String) (signals : List Signal) : List Message :=
  (signals.takeWhile (·.ending?.isNone)).filterMap (Signal.message? key)

/-- The data frame in a signal. -/
def Signal.data? : Signal → Option Frame
  | .frame (.text s) => some (.text s)
  | .frame (.binary bytes) => some (.binary bytes)
  | _ => none

/-- The data frames in the signals before the first one that ends the connection. -/
def dataOf (signals : List Signal) : List Frame :=
  (signals.takeWhile (·.ending?.isNone)).filterMap Signal.data?

/-- The event of the end of a connection, if it has ended. -/
def closings (reason : Option CloseReason) : List Event :=
  reason.toList.map .closed

variable {key : String} {signal : Signal} {signals taken unread : List Signal}
  {reason : CloseReason}

theorem Signal.ending?_eq_requested : signal.ending? = some .requested ↔ signal = .stop := by
  cases signal with
  | frame frame => cases frame <;> simp [ending?, CloseReason.ofFrame]
  | _ => simp [ending?]

/-- The other side says why it closes in a close frame with a reason that is not empty. -/
theorem Signal.of_ending?_said {why : String} (h : signal.ending? = some (.remote (some why))) :
    why ≠ "" ∧ ∃ code, signal = .frame (.close (some ⟨code, why⟩)) := by
  cases signal with
  | frame frame =>
    cases frame with
    | close body =>
      obtain ⟨hmap, hwhy⟩ :=
        Option.filter_eq_some_iff.mp (CloseReason.remote.inj (Option.some.inj h))
      obtain ⟨body, rfl, rfl⟩ := Option.map_eq_some_iff.mp hmap
      exact ⟨by simpa using hwhy, body.code, rfl⟩
    | _ => cases h
  | _ => cases h

/-- The other side closes without a word at the end of the connection, or in a close frame with no
reason or an empty one. -/
theorem Signal.of_ending?_silent (h : signal.ending? = some (.remote none)) :
    signal = .ended ∨ ∃ body : Option CloseBody, signal = .frame (.close body) ∧
      ∀ b ∈ body, b.reason = "" := by
  cases signal with
  | frame frame =>
    cases frame with
    | close body =>
      have hfilter := Option.filter_eq_none_iff.mp (CloseReason.remote.inj (Option.some.inj h))
      refine .inr ⟨body, rfl, fun b hb => ?_⟩
      simpa using hfilter b.reason (by rw [Option.mem_def.mp hb]; rfl)
    | _ => cases h
  | ended => exact .inl rfl
  | _ => cases h

theorem Signal.of_ending?_broken {fault : String} (h : signal.ending? = some (.broken fault)) :
    signal = .fault fault := by
  cases signal with
  | frame frame => cases frame <;> cases h
  | fault text => rw [CloseReason.broken.inj (Option.some.inj h)]
  | _ => cases h

@[simp] theorem endOf_nil : endOf [] = none := rfl

theorem endOf_cons_of_ending (h : signal.ending? = some reason) (rest : List Signal) :
    endOf (signal :: rest) = some reason := by
  simp [endOf, h]

theorem endOf_cons (h : signal.ending? = none) (rest : List Signal) :
    endOf (signal :: rest) = endOf rest := by
  simp [endOf, h]

theorem endOf_append {before : List Signal} (h : endOf before = none) (rest : List Signal) :
    endOf (before ++ rest) = endOf rest := by
  rw [endOf, List.findSome?_append, ← endOf, h, Option.none_or, ← endOf]

theorem endOf_of_append {before rest : List Signal} (h : endOf (before ++ rest) = none) :
    endOf before = none := by
  rw [endOf, List.findSome?_append, Option.or_eq_none_iff] at h
  exact h.1

/-- The data frames in signals that do not end the connection come before those in what follows. -/
theorem dataOf_append {before : List Signal} (h : endOf before = none) (rest : List Signal) :
    dataOf (before ++ rest) = before.filterMap Signal.data? ++ dataOf rest := by
  have hgoing : ∀ signal ∈ before, signal.ending?.isNone = true := by simpa [endOf] using h
  rw [dataOf, List.takeWhile_append_of_pos hgoing, List.filterMap_append, ← dataOf]

theorem dataOf_cons_of_ending (h : signal.ending? = some reason) (rest : List Signal) :
    dataOf (signal :: rest) = [] := by
  simp [dataOf, h]

/-- There is no message in a signal that ends the connection. -/
theorem Signal.message?_of_ending (h : signal.ending? = some reason) :
    signal.message? key = none := by
  cases signal with
  | frame frame => cases frame <;> first | rfl | cases h
  | _ => rfl

theorem Signal.data?_of_ending (h : signal.ending? = some reason) : signal.data? = none := by
  cases signal with
  | frame frame => cases frame <;> first | rfl | cases h
  | _ => rfl

@[simp] theorem messagesOf_nil : messagesOf key [] = [] := rfl

theorem messagesOf_cons_of_ending (h : signal.ending? = some reason) (rest : List Signal) :
    messagesOf key (signal :: rest) = [] := by
  simp [messagesOf, h]

theorem messagesOf_cons (h : signal.ending? = none) (rest : List Signal) :
    messagesOf key (signal :: rest) = (signal.message? key).toList ++ messagesOf key rest := by
  cases hm : signal.message? key <;> simp [messagesOf, h, hm]

/-- The messages in signals are the data frames, in order and unchanged. -/
theorem map_toFrame_filterMap_message? (key : String) (signals : List Signal) :
    (signals.filterMap (Signal.message? key)).map Message.toFrame =
      signals.filterMap Signal.data? := by
  rw [List.map_filterMap]
  refine congrArg (List.filterMap · _) (funext fun signal => ?_)
  cases signal with
  | frame frame => cases frame <;> rfl
  | _ => rfl

/-- The messages are the data frames before the end, in order and unchanged. -/
theorem map_toFrame_messagesOf (key : String) (signals : List Signal) :
    (messagesOf key signals).map Message.toFrame = dataOf signals :=
  map_toFrame_filterMap_message? key _

/-- Every message carries the key that it was read for. -/
theorem topic_of_message? {message : Message} (h : signal.message? key = some message) :
    message.topic = key := by
  cases signal with
  | frame frame =>
    obtain ⟨payload, -, rfl⟩ := Option.map_eq_some_iff.mp h
    rfl
  | _ => simp [Signal.message?] at h

theorem topic_of_mem_messagesOf {message : Message} (h : message ∈ messagesOf key signals) :
    message.topic = key := by
  obtain ⟨signal, -, hm⟩ := List.mem_filterMap.mp h
  exact topic_of_message? hm

/-- The first messages carry their key, and their frames are the first data frames. -/
theorem carried_of_prefix {messages : List Message} (h : messages <+: messagesOf key signals) :
    (∀ message ∈ messages, message.topic = key) ∧
      messages.map Message.toFrame <+: dataOf signals := by
  refine ⟨fun message hm => topic_of_mem_messagesOf (h.subset hm), ?_⟩
  rw [← map_toFrame_messagesOf key]
  exact h.map _

/-- The messages that a reader makes of some of the signals that arrived, perhaps between requests
to stop, are the first ones of the messages in all that arrived. -/
theorem messagesOf_prefix :
    messagesOf key taken <+: messagesOf key (taken.filter (· ≠ .stop) ++ unread) := by
  induction taken with
  | nil => exact List.nil_prefix
  | cons signal rest ih =>
    cases he : signal.ending? with
    | some reason =>
      rw [messagesOf_cons_of_ending he]
      exact List.nil_prefix
    | none =>
      have hstop : signal ≠ .stop := by
        rintro rfl
        cases he
      rw [List.filter_cons_of_pos (by simpa using hstop), List.cons_append, messagesOf_cons he,
        messagesOf_cons he]
      exact List.prefix_append_right_inj _ |>.mpr ih

/-- A connection that has not ended because it was asked to has been read to its end: its messages
are all that arrived before the end, and the end is the first that arrived. -/
theorem messagesOf_eq_of_endOf (h : endOf taken = some reason) (hr : reason ≠ .requested) :
    messagesOf key (taken.filter (· ≠ .stop) ++ unread) = messagesOf key taken ∧
      endOf (taken.filter (· ≠ .stop) ++ unread) = some reason := by
  induction taken with
  | nil => cases h
  | cons signal rest ih =>
    cases he : signal.ending? with
    | some found =>
      have hfound : found = reason := by
        rw [endOf_cons_of_ending he] at h
        exact Option.some.inj h
      subst hfound
      have hstop : signal ≠ .stop := fun hs =>
        hr (Option.some.inj (he.symm.trans (Signal.ending?_eq_requested.mpr hs)))
      rw [List.filter_cons_of_pos (by simpa using hstop), List.cons_append]
      exact ⟨by rw [messagesOf_cons_of_ending he, messagesOf_cons_of_ending he],
        endOf_cons_of_ending he _⟩
    | none =>
      have hstop : signal ≠ .stop := by
        rintro rfl
        cases he
      rw [endOf_cons he] at h
      obtain ⟨hmessages, hend⟩ := ih h
      rw [List.filter_cons_of_pos (by simpa using hstop), List.cons_append, messagesOf_cons he,
        messagesOf_cons he, endOf_cons he, hmessages]
      exact ⟨rfl, hend⟩

namespace Reader

variable {r : Reader}

theorem react_of_closed (h : r.state = .closed) (signal : Signal) : r.react signal = r := by
  simp [react, h]

theorem react_of_ending (h : r.state ≠ .closed) (he : signal.ending? = some reason) :
    r.react signal = r.finish reason := by
  cases signal with
  | frame frame =>
    cases frame <;> simp [Signal.ending?] at he
    simp [react, h, receive, he]
  | _ =>
    simp only [Signal.ending?, Option.some.injEq] at he
    simp [react, h, he]

theorem react_of_ending_eq_none (h : r.state ≠ .closed) (he : signal.ending? = none) :
    r.react signal = { r with
      events := r.events ++ (signal.message? r.key).toList.map .message } := by
  cases signal with
  | frame frame =>
    cases frame <;> simp [Signal.ending?] at he <;>
      simp [react, h, receive, Signal.message?, Message.ofFrame?, Frame.payload?]
  | _ => cases he

/-- A reader that reacts to a signal that does not end the connection keeps its key and its
state. -/
theorem react_going (r : Reader) (h : signal.ending? = none) :
    (r.react signal).key = r.key ∧ (r.react signal).state = r.state := by
  by_cases hclosed : r.state = .closed
  · rw [react_of_closed hclosed]
    exact ⟨rfl, rfl⟩
  · rw [react_of_ending_eq_none hclosed h]
    exact ⟨rfl, rfl⟩

/-- A reader only adds to its events, whatever has been taken of them before. -/
theorem react_with_append (r : Reader) (told : List Event) (signal : Signal) :
    ({ r with events := told ++ r.events } : Reader).react signal =
      { r.react signal with events := told ++ (r.react signal).events } := by
  by_cases h : r.state = .closed
  · rw [react_of_closed h, react_of_closed (by exact h)]
  · cases he : signal.ending? with
    | some reason =>
      rw [react_of_ending h he, react_of_ending (by exact h) he]
      simp [finish]
    | none =>
      rw [react_of_ending_eq_none h he, react_of_ending_eq_none (by exact h) he]
      simp

theorem run_append_singleton (r : Reader) (signals : List Signal) (signal : Signal) :
    r.run (signals ++ [signal]) = (r.run signals).react signal := by
  simp [run]

theorem run_of_closed (h : r.state = .closed) (signals : List Signal) : r.run signals = r := by
  induction signals with
  | nil => rfl
  | cons signal rest ih =>
    change (r.react signal).run rest = r
    rw [react_of_closed h, ih]

/-- What a reader that is still open makes of signals. -/
theorem run_of_open (h : r.state ≠ .closed) (signals : List Signal) :
    (r.run signals).events = r.events ++ (messagesOf r.key signals).map .message ++
        closings (endOf signals) ∧
      (r.run signals).state = if (endOf signals).isSome then .closed else r.state := by
  induction signals generalizing r with
  | nil => simp [run, closings]
  | cons signal rest ih =>
    change ((r.react signal).run rest).events = _ ∧ ((r.react signal).run rest).state = _
    cases he : signal.ending? with
    | some reason =>
      rw [react_of_ending h he, run_of_closed rfl, messagesOf_cons_of_ending he,
        endOf_cons_of_ending he]
      simp [finish, closings]
    | none =>
      rw [react_of_ending_eq_none h he, messagesOf_cons he, endOf_cons he]
      obtain ⟨hevents, hstate⟩ := ih (r := { r with
        events := r.events ++ (signal.message? r.key).toList.map .message }) h
      exact ⟨by rw [hevents]; simp, hstate⟩

/-- The events of a connection: it opens, then come the messages before its end, and then its end
if there is one. -/
theorem events_run (key : String) (signals : List Signal) :
    ((start key).run signals).events =
      .opened :: (messagesOf key signals).map .message ++ closings (endOf signals) :=
  (run_of_open (by simp [start]) signals).1

/-- A reader has closed if and only if a signal has ended the connection. -/
theorem state_run (key : String) (signals : List Signal) :
    ((start key).run signals).state = if (endOf signals).isSome then .closed else .streaming :=
  (run_of_open (by simp [start]) signals).2

end Reader

end FeedRelay.Feed
