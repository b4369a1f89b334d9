import FeedRelay.Proofs.Feed.FailedSubscribe

/-!
# The signal that stops a pump

A pump learns from a signal that it has to stop. The receiver of the signal can be polled for as
long as the signal has not come; the poll that finds the signal takes it, and the receiver is spent.
To poll a spent receiver is a crash. A pump has its receiver polled whenever it waits, beside what
else it waits for, unless it closes its connection already (`Phase.listens`). Which of the two is
looked at first is up to the environment, and the second is not looked at if the first is there.

A listener is a follower with the receiver of its pump. Its runs are the runs of the follower whose
attempts to connect come out as some network says.

## Main results

* `Listener.exists_run`: what a follower does, it does as a listener in some order of the polls.
* `Listener.signal_taken_once`: no receiver is polled once it is spent, and an attempt of a pump
  that a subscription has started fails because of the connection.
-/

namespace FeedRelay.Feed

/-- The receiver of a signal: the signal was not sent, was sent, or was taken. -/
inductive Receiver where
  | empty
  | sent
  | spent
  deriving DecidableEq

/-- What a poll of a receiver comes to: the signal is not there, or is taken, or the receiver was
spent, which is a crash. -/
inductive Poll where
  | pending
  | taken
  | crash
  deriving DecidableEq

/-- Poll a receiver. -/
def Receiver.poll : Receiver → Poll × Receiver
  | .empty => (.pending, .empty)
  | .sent => (.taken, .spent)
  | .spent => (.crash, .spent)

/-- Send the signal. -/
def Receiver.send : Receiver → Receiver
  | .empty => .sent
  | receiver => receiver

/-- Whether a pump has its receiver polled where it waits. -/
def Phase.listens : Phase → Bool
  | .driving closing => !closing
  | .waiting _ _ | .opening _ => true
  | .stuck | .ended => false

/-- A follower with the receiver of its pump, and whether the pump has crashed. -/
structure Listener where
  follower : Follower
  receiver : Receiver
  crashed : Bool

namespace Listener

/-- What else a pump waits for: an event of its connection, the end of a delay, or the outcome of an
attempt, which is up to a network. -/
inductive Ready where
  | event
  | elapsed
  | answer (network : Connect)

/-- What happens to the follower of a topic when something else is ready. -/
def Ready.occurrence (base : Url) (topic : Topic) : Ready → Occurrence
  | .event => .event
  | .elapsed => .elapsed
  | .answer network => .attempt (connect network topic base).1

/-- What may happen to a listener: the signal is sent, the reader of the connection gets a signal of
its own, or the pump has its turn. In a turn something else may be ready, and the receiver is looked
at before it or behind it. -/
inductive Move where
  | send
  | reader (signal : Signal)
  | turn (ready : Option Ready) (receiverFirst : Bool)

/-- What is noted: a poll of the receiver, or the outcome of an attempt to connect. -/
inductive Note where
  | polled (poll : Poll)
  | attempted (result : Except Failure Url)

/-- The poll that a note is of. -/
def Note.poll? : Note → Option Poll
  | .polled poll => some poll
  | .attempted _ => none

/-- The outcome that a note is of. -/
def Note.result? : Note → Option (Except Failure Url)
  | .polled _ => none
  | .attempted result => some result

/-- The polls among notes. -/
def pollsOf (notes : List Note) : List Poll :=
  notes.filterMap Note.poll?

/-- The outcomes of attempts among notes. -/
def resultsOf (notes : List Note) : List (Except Failure Url) :=
  notes.filterMap Note.result?

/-- The attempt that an occurrence is the outcome of. -/
def attemptNotes : Occurrence → List Note
  | .attempt result => [.attempted result]
  | _ => []

/-- The listener of a follower, to which no signal was sent. -/
def start (f : Follower) : Listener :=
  { follower := f, receiver := .empty, crashed := false }

/-- Let something happen to the follower. -/
def occur (l : Listener) (occurrence : Occurrence) : Option (Listener × List Note) :=
  (l.follower.step occurrence).map fun (g, _) => ({ l with follower := g }, attemptNotes occurrence)

/-- Let the pump do what else is ready, if something is. -/
def proceed (l : Listener) (base : Url) : Option Ready → Option (Listener × List Note)
  | none => some (l, [])
  | some ready => l.occur (ready.occurrence base l.follower.topic)

/-- Poll the receiver, and go on with something else if the signal is not there. -/
def look (l : Listener) (otherwise : Option (Listener × List Note)) :
    Option (Listener × List Note) :=
  let (poll, receiver) := l.receiver.poll
  let noted : Option (Listener × List Note) :=
    match poll with
    | .pending => otherwise
    | .taken => { l with receiver }.occur .stop
    | .crash => some ({ l with crashed := true }, [])
  noted.map fun (m, notes) => (m, .polled poll :: notes)

/-- The machine of the listeners below an address. A pump that has crashed gets no turn. -/
def machine (base : Url) : Machine Listener Move Note
  | l, .send => some ({ l with receiver := l.receiver.send }, [])
  | l, .reader signal => l.occur (.signal signal)
  | l, .turn ready receiverFirst =>
    if l.crashed then none
    else if l.follower.pump.phase.listens ∧ (receiverFirst ∨ ready.isNone) then
      l.look (l.proceed base ready)
    else l.proceed base ready

end Listener

/-! ### Pumps that do not listen -/

/-- A pump listens exactly while it waits for the signal. -/
theorem Pump.listens_eq (p : Pump) : p.phase.listens = (p.step .stop).isSome := by
  obtain ⟨topic, policy, state, phase⟩ := p
  cases phase with
  | driving closing => cases closing <;> rfl
  | _ => rfl

namespace Follower

variable {f g : Follower} {occurrence : Occurrence} {actions : List Action}

/-- A follower sees that it has to stop only while its pump listens. -/
theorem listens_of_stop (h : f.step .stop = some (g, actions)) :
    f.pump.phase.listens = true := by
  obtain ⟨p, hp, -⟩ := advance_eq_some.mp h
  rw [f.pump.listens_eq, hp]
  rfl

/-- A pump that has seen that it has to stop does not listen. -/
theorem not_listens_of_stop (hf : f.Sound) (h : f.step .stop = some (g, actions)) :
    g.pump.phase.listens = false := by
  cases hconnection : f.connection with
  | none =>
    obtain ⟨rfl, -⟩ := ended_of_stop hf hconnection h
    rfl
  | some s =>
    obtain ⟨hdown, -⟩ := windsDown_of_stop hf hconnection h
    cases hdown with
    | driving hphase | ended hphase => rw [hphase]; rfl

/-- A pump that does not listen will never do so again. -/
theorem not_listens_of_step (hf : f.Sound) (hdeaf : f.pump.phase.listens = false)
    (h : f.step occurrence = some (g, actions)) : g.pump.phase.listens = false := by
  have hover := (hf.step_spec h).isOver_eq
  cases hphase : f.pump.phase with
  | driving closing =>
    rw [hphase] at hdeaf
    obtain rfl : closing = true := by simpa [Phase.listens] using hdeaf
    obtain ⟨c, hc⟩ := hf.exists_connection (by rw [Pump.isDriving, hphase])
    rcases step_of_closing hf hphase hc h with ⟨-, -, -, rfl⟩ | ⟨-, -, -, -, -, -, rfl⟩ |
      ⟨-, -, -, -, rfl⟩
    · rw [hphase]; rfl
    · rw [hphase]; rfl
    · rfl
  | waiting | opening => rw [hphase] at hdeaf; cases hdeaf
  | stuck | ended => rw [isOver, hphase] at hover; cases hover

end Follower

namespace Listener

variable {l m : Listener} {base : Url} {f g : Follower} {move : Move} {moves : List Move}
  {notes more : List Note} {ready : Option Ready} {occurrence : Occurrence}

@[simp] theorem pollsOf_append (notes more : List Note) :
    pollsOf (notes ++ more) = pollsOf notes ++ pollsOf more :=
  List.filterMap_append

@[simp] theorem resultsOf_append (notes more : List Note) :
    resultsOf (notes ++ more) = resultsOf notes ++ resultsOf more :=
  List.filterMap_append

/-! ### What a move can do -/

/-- What a move does: nothing, or the signal is sent; something happens to the follower, perhaps
after the receiver was found empty; the signal is taken; or a spent receiver is polled. -/
inductive Change (base : Url) (l : Listener) : Listener → List Note → Prop
  | rest {notes : List Note}
      (hpolled : notes = [] ∨ notes = [.polled .pending] ∧ l.receiver = .empty) :
      Change base l l notes
  | send : Change base l { l with receiver := l.receiver.send } []
  | occur {polled : List Note} {occurrence : Occurrence} {g : Follower} {actions : List Action}
      (hpolled : polled = [] ∨ polled = [.polled .pending] ∧ l.receiver = .empty)
      (hnotStop : occurrence ≠ .stop)
      (hanswer : ∀ result, occurrence = .attempt result →
        ∃ network, result = (connect network l.follower.topic base).1)
      (hstep : l.follower.step occurrence = some (g, actions)) :
      Change base l { l with follower := g } (polled ++ attemptNotes occurrence)
  | stop {g : Follower} {actions : List Action} (hsent : l.receiver = .sent)
      (hstep : l.follower.step .stop = some (g, actions)) :
      Change base l { l with follower := g, receiver := .spent } [.polled .taken]
  | crash (hspent : l.receiver = .spent) (hlistens : l.follower.pump.phase.listens = true) :
      Change base l { l with crashed := true } [.polled .crash]

theorem occur_eq_some : l.occur occurrence = some (m, more) ↔
    ∃ g actions, l.follower.step occurrence = some (g, actions) ∧ m = { l with follower := g } ∧
      more = attemptNotes occurrence := by
  simp only [occur, Option.map_eq_some_iff, Prod.exists, Prod.mk.injEq]
  constructor
  · rintro ⟨g, actions, hstep, rfl, rfl⟩
    exact ⟨g, actions, hstep, rfl, rfl⟩
  · rintro ⟨g, actions, hstep, rfl, rfl⟩
    exact ⟨g, actions, hstep, rfl, rfl⟩

/-- What else is ready is no stop, and an attempt comes out as a network says. -/
private theorem change_of_proceed {polled : List Note}
    (hpolled : polled = [] ∨ polled = [.polled .pending] ∧ l.receiver = .empty)
    (h : l.proceed base ready = some (m, more)) : Change base l m (polled ++ more) := by
  cases ready with
  | none =>
    obtain ⟨rfl, rfl⟩ := Prod.mk.inj (Option.some.inj h)
    rw [List.append_nil]
    exact .rest hpolled
  | some ready =>
    obtain ⟨g, actions, hstep, rfl, rfl⟩ := occur_eq_some.mp h
    refine .occur hpolled ?_ (fun result hresult => ?_) hstep
    · cases ready <;> simp [Ready.occurrence]
    · cases ready with
      | answer network => exact ⟨network, (Occurrence.attempt.inj hresult).symm⟩
      | _ => cases hresult

/-- All that a move can do. -/
theorem change_of_machine (h : machine base l move = some (m, more)) : Change base l m more := by
  cases move with
  | send =>
    obtain ⟨rfl, rfl⟩ := Prod.mk.inj (Option.some.inj h)
    exact .send
  | reader signal =>
    obtain ⟨g, actions, hstep, rfl, rfl⟩ := occur_eq_some.mp h
    exact .occur (.inl (rfl : ([] : List Note) = [])) (by simp) (by simp) hstep
  | turn ready receiverFirst =>
    obtain ⟨-, h⟩ := Option.ite_none_left_eq_some.mp h
    split at h
    · rename_i hlook
      cases hreceiver : l.receiver with
      | empty =>
        simp only [look, hreceiver, Receiver.poll, Option.map_eq_some_iff] at h
        obtain ⟨⟨m', rest⟩, hproceed, heq⟩ := h
        obtain ⟨rfl, rfl⟩ := Prod.mk.inj heq
        exact change_of_proceed (.inr ⟨rfl, hreceiver⟩) hproceed
      | sent =>
        simp only [look, hreceiver, Receiver.poll, Option.map_eq_some_iff] at h
        obtain ⟨⟨m', rest⟩, hoccur, heq⟩ := h
        obtain ⟨rfl, rfl⟩ := Prod.mk.inj heq
        obtain ⟨g, actions, hstep, rfl, rfl⟩ := occur_eq_some.mp hoccur
        exact .stop hreceiver hstep
      | spent =>
        simp only [look, hreceiver, Receiver.poll, Option.map_some] at h
        obtain ⟨rfl, rfl⟩ := Prod.mk.inj (Option.some.inj h)
        rw [← hreceiver]
        exact .crash hreceiver hlook.1
    · exact change_of_proceed (.inl rfl) h

/-! ### Runs -/

/-- What is kept: the pump has not crashed, and does not listen once its receiver is spent, which it
is if the follower has seen that it has to stop; the polls found nothing but the signal in the end;
and attempts came out as networks said. -/
structure Kept (base : Url) (f : Follower) (l : Listener) (notes : List Note) : Prop where
  history : ∃ occurrences actions, Follower.machine.run f occurrences = some (l.follower, actions) ∧
    (l.receiver = .spent ↔ .stop ∈ occurrences)
  crashed_eq : l.crashed = false
  deaf : l.receiver = .spent → l.follower.pump.phase.listens = false
  polls : ∃ n, pollsOf notes =
    List.replicate n .pending ++ if l.receiver = .spent then [.taken] else []
  results : ∀ result ∈ resultsOf notes, ∃ network, result = (connect network f.topic base).1

theorem kept_start (base : Url) (f : Follower) : Kept base f (start f) [] where
  history := ⟨[], [], rfl, by simp [start]⟩
  crashed_eq := rfl
  deaf h := by cases h
  polls := ⟨0, rfl⟩
  results := by simp [resultsOf]

theorem Kept.sound (h : Kept base f l notes) (hf : f.Sound) :
    l.follower.Sound ∧ l.follower.topic = f.topic := by
  obtain ⟨occurrences, actions, hrun, -⟩ := h.history
  exact Follower.sound_of_run hf hrun

/-- A poll that found nothing comes before the signal is taken. -/
private theorem Kept.polls_append (h : Kept base f l notes) {polled : List Note}
    (hpolled : polled = [] ∨ polled = [.polled .pending] ∧ l.receiver = .empty) :
    ∃ n, pollsOf (notes ++ polled) =
      List.replicate n .pending ++ if l.receiver = .spent then [.taken] else [] := by
  obtain ⟨n, hn⟩ := h.polls
  rcases hpolled with rfl | ⟨rfl, hempty⟩
  · exact ⟨n, by rw [List.append_nil, hn]⟩
  · rw [if_neg (by simp [hempty]), List.append_nil] at hn
    refine ⟨n + 1, ?_⟩
    rw [if_neg (by simp [hempty]), List.append_nil, pollsOf_append, hn, List.replicate_succ']
    rfl

/-- Each move keeps what is kept. -/
theorem Kept.step (h : Kept base f l notes) (hf : f.Sound)
    (hstep : machine base l move = some (m, more)) : Kept base f m (notes ++ more) := by
  obtain ⟨hsound, htopic⟩ := h.sound hf
  obtain ⟨occurrences, actions, hrun, hspent⟩ := h.history
  cases change_of_machine hstep with
  | rest hpolled =>
    refine ⟨⟨_, _, hrun, hspent⟩, h.crashed_eq, h.deaf, h.polls_append hpolled, ?_⟩
    have hnone : resultsOf more = [] := by rcases hpolled with rfl | ⟨rfl, -⟩ <;> rfl
    rw [resultsOf_append, hnone, List.append_nil]
    exact h.results
  | send =>
    have hsame : l.receiver.send = .spent ↔ l.receiver = .spent := by
      cases l.receiver <;> simp [Receiver.send]
    refine ⟨⟨_, _, hrun, hsame.trans hspent⟩, h.crashed_eq, fun hs => h.deaf (hsame.mp hs), ?_, ?_⟩
    · obtain ⟨n, hn⟩ := h.polls
      exact ⟨n, by rw [List.append_nil, hn]; exact congrArg _ (if_congr hsame rfl rfl).symm⟩
    · rw [List.append_nil]
      exact h.results
  | @occur polled occurrence g actions' hpolled hnotStop hanswer hnext =>
    have hpolls : pollsOf (attemptNotes occurrence) = [] := by cases occurrence <;> rfl
    have hnone : resultsOf polled = [] := by rcases hpolled with rfl | ⟨rfl, -⟩ <;> rfl
    refine ⟨⟨_, _, Follower.machine.run_append hrun (Follower.machine.run_singleton.mpr hnext), ?_⟩,
      h.crashed_eq, fun hs => Follower.not_listens_of_step hsound (h.deaf hs) hnext, ?_, ?_⟩
    · rw [List.mem_append, List.mem_singleton, or_iff_left hnotStop.symm]
      exact hspent
    · rw [← List.append_assoc, pollsOf_append, hpolls, List.append_nil]
      exact h.polls_append hpolled
    · rw [resultsOf_append, resultsOf_append, hnone, List.nil_append]
      intro result hmem
      rcases List.mem_append.mp hmem with hmem | hmem
      · exact h.results result hmem
      · cases occurrence with
        | attempt answered =>
          obtain rfl := List.mem_singleton.mp hmem
          rw [← htopic]
          exact hanswer result rfl
        | _ => cases hmem
  | stop hsent hnext =>
    refine ⟨⟨_, _, Follower.machine.run_append hrun (Follower.machine.run_singleton.mpr hnext), ?_⟩,
      h.crashed_eq, fun _ => Follower.not_listens_of_stop hsound hnext, ?_, ?_⟩
    · simp
    · obtain ⟨n, hn⟩ := h.polls
      rw [if_neg (by simp [hsent]), List.append_nil] at hn
      exact ⟨n, by rw [pollsOf_append, hn]; rfl⟩
    · rw [resultsOf_append]
      simpa [resultsOf, Note.result?] using h.results
  | crash hs hlistens =>
    -- This is where `deaf` is needed: a pump polls a spent receiver only if it still listens.
    rw [h.deaf hs] at hlistens
    cases hlistens

theorem kept_of_run (hf : f.Sound) (h : (machine base).run (start f) moves = some (l, notes)) :
    Kept base f l notes :=
  Machine.run_induction (motive := fun _ l notes => Kept base f l notes) (kept_start base f)
    (fun _ hkept hstep => hkept.step hf hstep) h

/-- What a follower does whose attempts come out as networks say, it does as a listener. -/
theorem exists_run (hf : f.Sound) {occurrences : List Occurrence} {actions : List Action}
    (h : Follower.machine.run f occurrences = some (g, actions))
    (hanswers : ∀ result, .attempt result ∈ occurrences →
      ∃ network, result = (connect network f.topic base).1) :
    ∃ moves l notes, (machine base).run (start f) moves = some (l, notes) ∧ l.follower = g := by
  revert hanswers
  refine Machine.run_induction (motive := fun occurrences g _ =>
    (∀ result, .attempt result ∈ occurrences →
      ∃ network, result = (connect network f.topic base).1) →
    ∃ moves l notes, (machine base).run (start f) moves = some (l, notes) ∧ l.follower = g)
    (fun _ => ⟨[], _, [], rfl, rfl⟩) ?_ h
  intro occurrences g _ occurrence k _ hbefore ih hstep hanswers
  obtain ⟨moves, l, notes, hrun, rfl⟩ := ih fun result hmem =>
    hanswers result (List.mem_append_left _ hmem)
  have hkept := kept_of_run hf hrun
  have hoccur : l.occur occurrence = some ({ l with follower := k }, attemptNotes occurrence) :=
    occur_eq_some.mpr ⟨k, _, hstep, rfl, rfl⟩
  -- Everything but a stop takes one move.
  have hone (move : Move) (hmove : machine base l move = l.occur occurrence) :
      ∃ moves l notes, (machine base).run (start f) moves = some (l, notes) ∧ l.follower = k :=
    ⟨_, _, _, (machine base).run_append hrun
      ((machine base).run_singleton.mpr (hmove.trans hoccur)), rfl⟩
  have hturn (ready : Ready) (hready : ready.occurrence base l.follower.topic = occurrence) :
      machine base l (.turn (some ready) false) = l.occur occurrence := by
    simp [machine, hkept.crashed_eq, proceed, hready]
  cases occurrence with
  | stop =>
    have hlistens := Follower.listens_of_stop hstep
    have hsent : l.receiver.send = .sent := by
      cases hreceiver : l.receiver with
      | spent => rw [hkept.deaf hreceiver] at hlistens; cases hlistens
      | _ => rfl
    have hsend : (machine base).run l [.send] = some ({ l with receiver := .sent }, []) :=
      (machine base).run_singleton.mpr (by rw [machine, hsent])
    have htake : (machine base).run { l with receiver := .sent } [.turn none true] =
        some ({ l with follower := k, receiver := .spent }, [.polled .taken]) := by
      have hstep : l.follower.step .stop = some (k, _) := hstep
      refine (machine base).run_singleton.mpr ?_
      simp [machine, hkept.crashed_eq, hlistens, look, Receiver.poll, occur, hstep, attemptNotes]
    exact ⟨_, _, _, (machine base).run_append hrun ((machine base).run_append hsend htake), rfl⟩
  | signal signal => exact hone (.reader signal) rfl
  | event => exact hone _ (hturn .event rfl)
  | elapsed => exact hone _ (hturn .elapsed rfl)
  | attempt result =>
    obtain ⟨network, rfl⟩ := hanswers result (by simp)
    have htopic := (hkept.sound hf).2
    exact hone _ (hturn (.answer network) (by rw [Ready.occurrence, htopic]))

/-! ### The pump of a subscription -/

/-- A pump waits, and an attempt to connect is refused; the next one succeeds, the connection opens,
the signal is sent and taken, and the connection is closed. -/
def stopAfterTwoAttempts : List Move :=
  [.turn none true, .turn (some .elapsed) false,
    .turn (some (.answer fun _ => some (.io .refused))) true, .turn (some .elapsed) true,
    .turn (some (.answer fun _ => none)) false, .turn (some .event) false, .send,
    .turn (some .event) true, .reader .stop, .turn (some .event) true]

/-- A pump that a subscription starts polls its receiver until it takes the signal, and not once
more: it never polls a spent one. An attempt of the pump fails because of the connection. What the
pump does is what its follower may do, which sees that it has to stop when the signal is taken; if
it is over then, it has closed. -/
theorem signal_taken_once {s t : Service} {network : Connect} {reports : List Report}
    (hstart : Service.machine s (.connected network) = some (t, reports))
    (hf : t.follower? s.tasks.length = some f)
    (hrun : (machine s.base).run (start f) moves = some (l, notes)) :
    l.crashed = false ∧
      (∃ n, pollsOf notes =
        List.replicate n .pending ++ if l.receiver = .spent then [.taken] else []) ∧
      (∀ result ∈ resultsOf notes, (∃ url, result = .ok url) ∨
        ∃ address fault, result = .error (.connection address fault)) ∧
      (∃ occurrences actions,
        Follower.machine.run f occurrences = some (l.follower, actions) ∧
          (l.receiver = .spent ↔ .stop ∈ occurrences)) ∧
      (l.receiver = .spent → l.follower.isOver = true → l.follower.state = .closed) := by
  have hnone : s.follower? s.tasks.length = none := by simp [Service.follower?, Service.followers]
  obtain ⟨topic, url, address, hurl, rfl⟩ : ∃ topic url address, topic.url s.base = .ok url ∧
      f = (Follower.start topic s.policy address).1 := by
    obtain ⟨topic, -, ⟨url, address, hurl, hfollow⟩ | ⟨failure, rfl, -⟩⟩ :=
      Service.connected_cases hstart
    · obtain rfl := congrArg Prod.fst hfollow
      rcases Service.follower?_follow.mp hf with hf | ⟨-, rfl⟩
      · cases hnone.symm.trans hf
      · exact ⟨topic, url, address, hurl, rfl⟩
    · cases hnone.symm.trans hf
  obtain ⟨hsound, htopic, -⟩ := Follower.start_spec topic s.policy address
  have hkept := kept_of_run hsound hrun
  refine ⟨hkept.crashed_eq, hkept.polls, fun result hresult => ?_, hkept.history,
    fun hspent hover => ?_⟩
  · obtain ⟨network, rfl⟩ := hkept.results result hresult
    rw [htopic]
    rcases connect_cases network topic s.base with
      ⟨url, -, hok | ⟨failure, hfailure, herror⟩⟩ | ⟨fault, hfault, -⟩
    · exact .inl ⟨url, hok⟩
    · cases failure with
      | connection address fault => exact .inr ⟨address, fault, herror⟩
      | _ => cases hfailure
    · cases hurl.symm.trans hfault
  · obtain ⟨occurrences, actions, hfollower, hiff⟩ := hkept.history
    obtain ⟨hl, -⟩ := Follower.sound_of_run hsound hfollower
    have hnotStuck := Follower.phase_ne_stuck_of_stop hsound hfollower (hiff.mp hspent)
    refine Follower.state_eq_closed hl ?_
    cases hphase : l.follower.pump.phase with
    | ended => rfl
    | stuck => exact absurd hphase hnotStuck
    | _ => rw [Follower.isOver, hphase] at hover; cases hover

/-- A pump without a connection makes an attempt that fails and one that succeeds, and finds its
receiver empty three times. It takes the signal when its connection has opened, and closes. -/
theorem signal_taken_once_of_two_attempts :
    ∃ s t first reports f l notes result,
      Service.machine.run (.start Topic.slashed
        (.exponential (.ofMilliseconds 1) (.ofMilliseconds 2))) [.subscribe "a" none] =
          some (s, first) ∧
      Service.machine s (.connected fun _ => some (.io .refused)) = some (t, reports) ∧
      t.follower? s.tasks.length = some f ∧
      (machine s.base).run (start f) stopAfterTwoAttempts = some (l, notes) ∧
      pollsOf notes = [.pending, .pending, .pending, .taken] ∧ l.crashed = false ∧
      resultsOf notes = [.error (.connection "ws://h/subscribe/a" (.io .refused)), .ok result] ∧
      l.receiver = .spent ∧ l.follower.state = .closed := by
  have hseen : ((Service.machine.run (.start Topic.slashed
      (.exponential (.ofMilliseconds 1) (.ofMilliseconds 2))) [.subscribe "a" none]).bind
        fun asked => (Service.machine asked.1 (.connected fun _ => some (.io .refused))).bind
          fun started => (started.1.follower? asked.1.tasks.length).bind fun f =>
            ((machine asked.1.base).run (start f) stopAfterTwoAttempts).map fun next =>
              (pollsOf next.2, resultsOf next.2, next.1.receiver, next.1.follower.isOver)) =
      some ([.pending, .pending, .pending, .taken],
        [.error (.connection "ws://h/subscribe/a" (.io .refused)), .ok Topic.belowSlashed],
        .spent, true) := by
    decide +kernel
  obtain ⟨⟨s, first⟩, hsubscribe, hseen⟩ := Option.bind_eq_some_iff.mp hseen
  obtain ⟨⟨t, reports⟩, hstart, hseen⟩ := Option.bind_eq_some_iff.mp hseen
  obtain ⟨f, hf, hseen⟩ := Option.bind_eq_some_iff.mp hseen
  obtain ⟨⟨l, notes⟩, hrun, hseen⟩ := Option.map_eq_some_iff.mp hseen
  simp only [Prod.mk.injEq] at hseen
  obtain ⟨hpolls, hresults, hspent, hover⟩ := hseen
  obtain ⟨hcrashed, -, -, -, hclosed⟩ := signal_taken_once hstart hf hrun
  exact ⟨s, t, first, reports, f, l, notes, _, hsubscribe, hstart, hf, hrun, hpolls, hcrashed,
    hresults, hspent, hclosed hspent hover⟩

end Listener

end FeedRelay.Feed
