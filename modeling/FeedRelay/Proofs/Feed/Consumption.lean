import FeedRelay.Proofs.Feed.ReaderOutput

/-!
# Taking the events of a connection

The events of a connection are taken from its reader one by one, so at every moment they fall into
those that were taken and those that wait. `Subscription.Consumed` says so, with the signals that
the reader has reacted to so far. What was taken is a beginning of what the reader makes of its
signals (`Subscription.Consumed.told_cases`), the last event is taken after all others
(`Subscription.Consumed.of_closed_next`), and until it is taken the queue does not end
(`Subscription.Consumed.nextEvent_ne_ended`).
-/

namespace FeedRelay.Feed

/-- The events `told` of the subscription of a topic have been taken; its reader has reacted to the
signals `taken`. The last event of the connection has not been taken. -/
structure Subscription.Consumed (s : Subscription) (topic : Topic) (told : List Event)
    (taken : List Signal) : Prop where
  topic_eq : s.topic = topic
  reader_eq : { s.reader with events := told ++ s.reader.events } =
    (Reader.start topic.displayKey).run taken
  closed_notMem : ∀ reason, .closed reason ∉ told

/-- The subscription without the first of the events that wait. -/
def Subscription.pop (s : Subscription) (rest : List Event) : Subscription :=
  { s with reader := { s.reader with events := rest } }

namespace Subscription

variable {s : Subscription} {topic : Topic} {told rest : List Event} {taken : List Signal}
  {event : Event} {reason : CloseReason}

theorem consumed_start (topic : Topic) (url : Url) :
    (Subscription.start topic url).Consumed topic [] [] :=
  ⟨rfl, rfl, by simp⟩

namespace Consumed

theorem close (h : s.Consumed topic told taken) : s.close.Consumed topic told taken :=
  ⟨h.topic_eq, h.reader_eq, h.closed_notMem⟩

/-- A signal is one more that the reader has reacted to, unless it is a request to stop that nobody
made. -/
theorem receive (h : s.Consumed topic told taken) (signal : Signal) :
    (s.receive signal).Consumed topic told (taken ++ [signal]) ∨
      signal = .stop ∧ s.receive signal = s := by
  by_cases hc : signal = .stop ∧ !s.closing
  · exact Or.inr ⟨hc.1, by rw [Subscription.receive, if_pos hc]⟩
  · rw [Subscription.receive, if_neg hc]
    refine Or.inl ⟨h.topic_eq, ?_, h.closed_notMem⟩
    rw [Reader.run_append_singleton, ← h.reader_eq, Reader.react_with_append]

/-- What was taken and what waits is what the reader makes of its signals. -/
theorem told_append (h : s.Consumed topic told taken) :
    told ++ s.reader.events =
      .opened :: (messagesOf topic.displayKey taken).map .message ++ closings (endOf taken) :=
  (congrArg Reader.events h.reader_eq).trans (Reader.events_run _ _)

theorem state_eq (h : s.Consumed topic told taken) :
    s.state = if (endOf taken).isSome then .closed else .streaming :=
  (congrArg Reader.state h.reader_eq).trans (Reader.state_run _ _)

theorem pop (h : s.Consumed topic told taken) (he : s.reader.events = event :: rest)
    (hlast : ∀ reason, event ≠ .closed reason) :
    (s.pop rest).Consumed topic (told ++ [event]) taken := by
  refine ⟨h.topic_eq, ?_, ?_⟩
  · rw [← h.reader_eq, he]
    simp [Subscription.pop]
  · intro reason hr
    rcases List.mem_append.mp hr with hr | hr
    · exact h.closed_notMem reason hr
    · exact hlast reason (List.mem_singleton.mp hr).symm

/-- Once a reader has closed, its last event waits until it is taken. -/
theorem nextEvent_ne_ended (h : s.Consumed topic told taken) : s.nextEvent.1 ≠ .ended := by
  cases he : s.reader.events with
  | cons event rest => simp [nextEvent, he]
  | nil =>
    cases hend : endOf taken with
    | none =>
      have hstate : s.reader.state = .streaming := h.state_eq.trans (by rw [hend]; rfl)
      simp [nextEvent, he, hstate]
    | some reason =>
      have hmem : .closed reason ∈ told := by
        have := h.told_append
        rw [he, List.append_nil, hend] at this
        simp [this, closings]
      exact absurd hmem (h.closed_notMem reason)

/-- The end of a connection stands once among its events, behind all others. -/
private theorem split_at_closed {others : List Event} {messages : List Message}
    {found : Option CloseReason}
    (h : others ++ .closed reason :: rest = .opened :: messages.map .message ++ closings found) :
    others = .opened :: messages.map .message ∧ rest = [] ∧ found = some reason := by
  cases found with
  | none =>
    have hmem : .closed reason ∈ others ++ .closed reason :: rest := by simp
    rw [h] at hmem
    simp [closings] at hmem
  | some found =>
    change _ = _ ++ [Event.closed found] at h
    have hrest : rest = [] := by
      rcases List.eq_nil_or_concat rest with hnil | ⟨init, last, rfl⟩
      · exact hnil
      · have hinit : others ++ .closed reason :: init = .opened :: messages.map .message := by
          have hcat : (others ++ .closed reason :: init) ++ [last] =
              (.opened :: messages.map .message) ++ [.closed found] := by
            simpa using h
          exact List.append_inj_left' hcat rfl
        have hmem : .closed reason ∈ others ++ .closed reason :: init := by simp
        rw [hinit] at hmem
        simp at hmem
    subst hrest
    obtain ⟨hothers, hlast⟩ := List.append_inj' h rfl
    have hreason : reason = found := by simpa using hlast
    exact ⟨hothers, rfl, by rw [hreason]⟩

/-- When the last event is the next one, everything else has been taken. -/
theorem of_closed_next (h : s.Consumed topic told taken)
    (he : s.reader.events = .closed reason :: rest) :
    told = .opened :: (messagesOf topic.displayKey taken).map .message ∧
      endOf taken = some reason ∧ s.state = .closed := by
  have hall := h.told_append
  rw [he] at hall
  obtain ⟨htold, -, hend⟩ := split_at_closed hall
  refine ⟨htold, hend, ?_⟩
  rw [h.state_eq, hend]
  rfl

/-- Nothing comes behind the last event. -/
theorem eq_nil_of_closed_next (h : s.Consumed topic told taken)
    (he : s.reader.events = .closed reason :: rest) : rest = [] := by
  have hall := h.told_append
  rw [he] at hall
  exact (split_at_closed hall).2.1

/-- Before the last event, what was taken is a beginning of what opens a connection. -/
theorem told_cases (h : s.Consumed topic told taken) :
    told = [] ∨ ∃ messages, messages <+: messagesOf topic.displayKey taken ∧
      told = .opened :: messages.map .message := by
  have hpre : told <+: .opened :: (messagesOf topic.displayKey taken).map .message ++
      closings (endOf taken) := ⟨_, h.told_append⟩
  have htold : told <+: .opened :: (messagesOf topic.displayKey taken).map .message := by
    cases hend : endOf taken with
    | none => simpa [hend, closings] using hpre
    | some reason =>
      rw [hend] at hpre
      rcases List.prefix_concat_iff.mp hpre with heq | hshort
      · exact absurd (by simp [heq]) (h.closed_notMem reason)
      · exact hshort
  cases told with
  | nil => exact Or.inl rfl
  | cons first others =>
    obtain ⟨rfl, hothers⟩ := List.cons_prefix_cons.mp htold
    obtain ⟨messages, hmessages, rfl⟩ := List.prefix_map_iff.mp hothers
    exact Or.inr ⟨messages, hmessages, rfl⟩

end Consumed

end Subscription

end FeedRelay.Feed
