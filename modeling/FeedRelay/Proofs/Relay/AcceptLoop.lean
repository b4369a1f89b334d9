import FeedRelay.Relay.Acceptor
import FeedRelay.Proofs.Relay.Audience

/-!
# Accepting for ever

A reception is an audience whose connections come through calls to accept. Each call gives a
connection or a fault. A connection is handed to a handler of its own, which is a connection of the
audience, and the next call is made at once; so it is after a fault of the peer. After any other
fault there is a pause first. Meanwhile the handlers of the connections that came before, and the
feeds that broadcast to the same hub, go on in any order. No time is counted but that of the pauses.

Whatever the calls give, the reception is as far as `Acceptor.run` says, which makes each pause a
part of the step before it (`Reception.settled_of_run`).

## Main results

* `Acceptor.run_start`: how far accepting is after some results.
* `Reception.accepts_for_ever`: a reception waits in a call to accept or in a pause that leads to
  one, the calls are made when they should be, every connection has a handler, and each result has
  its line in the log.
-/

namespace FeedRelay

/-! ### Results of calls to accept -/

namespace Accepted

/-- Whether a pause follows a result. -/
def backsOff : Accepted → Bool
  | .connection _ => false
  | .fault kind _ => !kind.isOfPeer

/-- The address that a connection comes from. -/
def peer? : Accepted → Option Address.Socket
  | .connection peer => some peer
  | .fault _ _ => none

/-- The log line about a result. -/
def line : Accepted → Log.Line
  | .connection peer =>
    Log.debug .server ("Accepted downstream connection from " ++ String.ofList peer.render)
  | .fault kind text =>
    if kind.isOfPeer then
      Log.debug .server ("Downstream connection dropped before accept: " ++ text)
    else Log.warn .server ("Failed to accept downstream connection: " ++ text)

/-- The connections among some results, by their addresses. -/
def peersOf (results : List Accepted) : List Address.Socket :=
  results.filterMap peer?

/-- The milliseconds that were waited for some results. -/
def waitFor (results : List Accepted) : Nat :=
  100 * results.countP backsOff

theorem line_level (result : Accepted) :
    result.line.level = if result.backsOff then .warn else .debug := by
  cases result with
  | connection peer => rfl
  | fault kind text =>
    cases hkind : kind.isOfPeer <;> simp [line, backsOff, hkind, Log.debug, Log.warn]

theorem backsOff_iff {kind : AcceptFault} {text : String} :
    (fault kind text).backsOff = true ↔ kind ≠ .aborted ∧ kind ≠ .reset ∧ kind ≠ .interrupted := by
  cases kind <;> simp [backsOff, AcceptFault.isOfPeer]

theorem peersOf_append (results more : List Accepted) :
    peersOf (results ++ more) = peersOf results ++ peersOf more :=
  List.filterMap_append

theorem waitFor_append (results more : List Accepted) :
    waitFor (results ++ more) = waitFor results + waitFor more := by
  simp only [waitFor, List.countP_append, Nat.mul_add]

theorem waitFor_singleton (result : Accepted) :
    waitFor [result] = if result.backsOff then 100 else 0 := by
  cases h : result.backsOff <;> simp [waitFor, h]

end Accepted

namespace Acceptor

variable (address : Option Address.Socket)

/-- The line about the address that is listened on. -/
def listeningLine (socket : Address.Socket) : Log.Line :=
  Log.info .server ("Downstream server listening on ws://" ++ String.ofList socket.render)

/-- What a result makes of accepting. -/
theorem step_eq (a : Acceptor) (result : Accepted) :
    a.step result =
      { now := a.now + Accepted.waitFor [result]
        calls := a.calls ++ [a.now + Accepted.waitFor [result]]
        handled := a.handled ++ Accepted.peersOf [result]
        log := a.log ++ [result.line] } := by
  rw [Accepted.waitFor_singleton]
  cases result with
  | connection peer => rfl
  | fault kind text =>
    cases hkind : kind.isOfPeer <;>
      simp [step, again, pause, hkind, Accepted.backsOff, Accepted.peersOf, Accepted.peer?,
        Accepted.line]

theorem run_concat (a : Acceptor) (results : List Accepted) (result : Accepted) :
    a.run (results ++ [result]) = (a.run results).step result := by
  rw [run, run, List.foldl_concat]

/-- **How far accepting is.** After some results, the time waited is that of the pauses for them;
one more call than there are results has been made, each when the results before it had been waited
for; the connections are handed over and the lines logged in the order of the results. -/
theorem run_start (results : List Accepted) :
    (start address).run results =
      { now := Accepted.waitFor results
        calls := (List.range (results.length + 1)).map fun n => Accepted.waitFor (results.take n)
        handled := Accepted.peersOf results
        log := address.toList.map listeningLine ++ results.map Accepted.line } := by
  induction results using List.reverseRecOn with
  | nil => simp [run, start, Accepted.waitFor, Accepted.peersOf, listeningLine]
  | append_singleton results result ih =>
    have htake : ((List.range (results.length + 1)).map fun n =>
          Accepted.waitFor ((results ++ [result]).take n)) =
        (List.range (results.length + 1)).map fun n => Accepted.waitFor (results.take n) := by
      refine List.map_congr_left fun n hn => ?_
      rw [List.take_append_of_le_length (Nat.le_of_lt_succ (List.mem_range.mp hn))]
    have hall : (results ++ [result]).take (results.length + 1) = results ++ [result] :=
      List.take_of_length_le (by simp)
    rw [run_concat, ih, step_eq, Accepted.peersOf_append, Accepted.waitFor_append, List.map_append,
      List.length_append, List.length_singleton, List.range_succ (n := results.length + 1),
      List.map_append, htake, List.map_singleton, hall, Accepted.waitFor_append, List.append_assoc]
    rfl

end Acceptor

/-! ### The machine of receptions -/

/-- What a reception is doing itself: it waits in a call to accept, or in a pause. -/
inductive Reception.Standing where
  | calling
  | pausing

/-- An audience whose connections come through calls to accept, with how far accepting is. -/
structure Reception extends Audience where
  acceptor : Acceptor
  standing : Reception.Standing

namespace Reception

/-- What may happen: the call to accept comes out, the pause is over, or something happens to the
audience. -/
inductive Move where
  | accept (result : Accepted)
  | elapsed
  | audience (move : Audience.Move)

/-- The result that a move brings. -/
def Move.result? : Move → Option Accepted
  | .accept result => some result
  | _ => none

/-- What a move is to the audience: a connection that is accepted comes to it. -/
def Move.audience? : Move → Option Audience.Move
  | .accept (.connection _) => some .connect
  | .audience move => some move
  | _ => none

/-- Whether a connection comes with a move of an audience. -/
def comes : Audience.Move → Bool
  | .connect => true
  | _ => false

/-- The results of the calls to accept. -/
def resultsOf (moves : List Move) : List Accepted :=
  moves.filterMap Move.result?

/-- The moves of the audience. -/
def audienceOf (moves : List Move) : List Audience.Move :=
  moves.filterMap Move.audience?

/-- A reception that waits for its first connection, at an address if it is known. -/
def start (address : Option Address.Socket) : Reception :=
  { Audience.start with acceptor := .start address, standing := .calling }

/-- Make the next call to accept. -/
def callAgain (r : Reception) (wait : Nat) : Reception :=
  { r with
    acceptor := { r.acceptor with now := r.acceptor.now + wait
                                  calls := r.acceptor.calls ++ [r.acceptor.now + wait] }
    standing := .calling }

/-- Log a line. -/
def note (r : Reception) (line : Log.Line) : Reception :=
  { r with acceptor := { r.acceptor with log := r.acceptor.log ++ [line] } }

/-- Hand a connection from an address to a handler of its own. -/
def handOver (r : Reception) (peer : Address.Socket) : Reception :=
  { r with
    connections := r.connections ++ [.greeting]
    acceptor := { r.acceptor with handled := r.acceptor.handled ++ [peer] } }

/-- Go on from what the waiting call gives. -/
def take (r : Reception) : Accepted → Reception
  | .connection peer => ((r.note (Accepted.connection peer).line).handOver peer).callAgain 0
  | .fault kind text =>
    let r := r.note (Accepted.fault kind text).line
    if kind.isOfPeer then r.callAgain 0 else { r with standing := .pausing }

/-- The machine of receptions. Connections come to the audience in no other way. -/
def machine : Machine Reception Move Traffic.Note
  | r, .accept result =>
    match r.standing with
    | .calling => some (r.take result, [])
    | .pausing => none
  | r, .elapsed =>
    match r.standing with
    | .calling => none
    | .pausing => some (r.callAgain Acceptor.pause, [])
  | r, .audience move =>
    if comes move then none
    else (Audience.machine r.toAudience move).map fun next =>
      ({ r with toAudience := next.1 }, next.2)

/-- How far accepting is once a pause that goes on is over. -/
def settled (r : Reception) : Acceptor :=
  match r.standing with
  | .calling => r.acceptor
  | .pausing => (r.callAgain Acceptor.pause).acceptor

variable {r s : Reception} {move : Move} {moves : List Move} {notes more : List Traffic.Note}
  {address : Option Address.Socket}

/-- A result is dealt with as accepting deals with it, but for the pause, which is still to come. -/
theorem settled_take (h : r.standing = .calling) (result : Accepted) :
    (r.take result).settled = r.settled.step result := by
  obtain ⟨a, acceptor, standing⟩ := r
  obtain rfl : standing = .calling := h
  cases result with
  | connection peer => rfl
  | fault kind text =>
    cases hkind : kind.isOfPeer <;>
      simp [take, settled, callAgain, note, Accepted.line, Acceptor.step, Acceptor.again, hkind]

/-- A connection that is accepted comes to the audience. -/
theorem run_audience_take (r : Reception) (result : Accepted) :
    Audience.machine.run r.toAudience (audienceOf [.accept result]) =
      some ((r.take result).toAudience, []) := by
  cases result with
  | connection peer => rfl
  | fault kind text => cases hkind : kind.isOfPeer <;> simp only [take, hkind] <;> rfl

/-- A move of a reception: what it makes of accepting, and what it is to the audience. -/
theorem machine_spec (h : machine r move = some (s, more)) :
    s.settled = r.settled.run (resultsOf [move]) ∧
      Audience.machine.run r.toAudience (audienceOf [move]) = some (s.toAudience, more) := by
  cases move with
  | accept result =>
    simp only [machine] at h
    split at h
    · cases h
      exact ⟨settled_take ‹_› result, r.run_audience_take result⟩
    · cases h
  | elapsed =>
    simp only [machine] at h
    split at h
    · cases h
    · rename_i hstanding
      cases h
      refine ⟨?_, rfl⟩
      rw [settled, settled, hstanding]
      rfl
  | audience inner =>
    obtain ⟨-, h⟩ := Option.ite_none_left_eq_some.mp h
    obtain ⟨⟨a, notes⟩, hinner, h⟩ := Option.map_eq_some_iff.mp h
    obtain ⟨rfl, rfl⟩ := Prod.mk.inj h
    exact ⟨rfl, Audience.machine.run_singleton.mpr hinner⟩

/-- Accepting is as far as the results say, and the audience has come to where it is by moves of its
own. -/
theorem settled_of_run (h : machine.run (start address) moves = some (r, notes)) :
    r.settled = (Acceptor.start address).run (resultsOf moves) ∧
      Audience.machine.run Audience.start (audienceOf moves) = some (r.toAudience, notes) := by
  refine Machine.run_induction (motive := fun moves r notes =>
    r.settled = (Acceptor.start address).run (resultsOf moves) ∧
      Audience.machine.run Audience.start (audienceOf moves) = some (r.toAudience, notes))
    ⟨rfl, rfl⟩ ?_ h
  rintro moves r notes move s more - ⟨hsettled, haudience⟩ hstep
  obtain ⟨hnext, hmore⟩ := machine_spec hstep
  rw [resultsOf, audienceOf, List.filterMap_append, List.filterMap_append]
  refine ⟨?_, Audience.machine.run_append haudience hmore⟩
  rw [Acceptor.run, List.foldl_append]
  rw [hsettled] at hnext
  exact hnext

/-! ### Handlers -/

/-- No connection comes to an audience or goes but with a move of its own. -/
theorem length_connections_of_audience {a b : Audience} {move : Audience.Move}
    (h : Audience.machine a move = some (b, more)) :
    b.connections.length = a.connections.length + [move].countP comes := by
  cases Audience.change_of_machine h with
  | connect => exact List.length_append
  | turnAway | welcome | client => exact List.length_set
  | _ => rfl

/-- An audience has as many connections as have come to it. -/
theorem length_connections_of_run {a : Audience} {moves : List Audience.Move}
    (h : Audience.machine.run Audience.start moves = some (a, notes)) :
    a.connections.length = moves.countP comes := by
  refine Machine.run_induction
    (motive := fun moves (a : Audience) _ => a.connections.length = moves.countP comes) rfl ?_ h
  intro moves a notes move b more _ hlength hstep
  rw [length_connections_of_audience hstep, hlength, List.countP_append]

/-- The connections that come to the audience are those that are accepted. -/
theorem countP_comes_audienceOf (h : machine.run (start address) moves = some (r, notes)) :
    (audienceOf moves).countP comes = (Accepted.peersOf (resultsOf moves)).length := by
  refine Machine.run_induction (motive := fun moves _ _ =>
    (audienceOf moves).countP comes = (Accepted.peersOf (resultsOf moves)).length) rfl ?_ h
  intro moves r notes move s more _ hbefore hstep
  have hmove : (audienceOf [move]).countP comes =
      (Accepted.peersOf (resultsOf [move])).length := by
    cases move with
    | accept result => cases result <;> rfl
    | elapsed => rfl
    | audience inner =>
      have hno : comes inner = false := by
        cases hcomes : comes inner with
        | false => rfl
        | true =>
          rw [machine, if_pos hcomes] at hstep
          cases hstep
      exact List.countP_eq_zero.mpr fun move hmove => by
        obtain rfl := List.mem_singleton.mp hmove
        simp [hno]
  rw [audienceOf, resultsOf, List.filterMap_append, List.filterMap_append, List.countP_append,
    Accepted.peersOf_append, List.length_append]
  exact congrArg₂ (· + ·) hbefore hmove

/-! ### Progress -/

/-- A reception waits in a call to accept, which may give anything, or in a pause, after which it
waits in a call. -/
theorem goes_on (r : Reception) :
    (r.standing = .calling ∧ r.acceptor = r.settled ∧
        ∀ result, machine r (.accept result) = some (r.take result, [])) ∨
      (r.standing = .pausing ∧ ∃ s, machine r .elapsed = some (s, []) ∧ s.standing = .calling ∧
        s.acceptor = r.settled) := by
  cases hstanding : r.standing with
  | calling => exact .inl ⟨rfl, by simp only [settled, hstanding], by simp [machine, hstanding]⟩
  | pausing =>
    exact .inr ⟨rfl, r.callAgain Acceptor.pause, by simp [machine, hstanding], rfl,
      by simp only [settled, hstanding]⟩

/-- Whatever the results are to be, there is a run in which the calls give them. -/
theorem exists_run_of_results (address : Option Address.Socket) (results : List Accepted) :
    ∃ moves r, machine.run (start address) moves = some (r, []) ∧ resultsOf moves = results ∧
      r.standing = .calling := by
  induction results using List.reverseRecOn with
  | nil => exact ⟨[], _, rfl, rfl, rfl⟩
  | append_singleton results result ih =>
    obtain ⟨moves, r, hrun, hresults, hstanding⟩ := ih
    have htake : machine.run r [.accept result] = some (r.take result, []) :=
      machine.run_singleton.mpr (by simp only [machine, hstanding])
    have hmore := machine.run_append hrun htake
    have hall : resultsOf (moves ++ [.accept result]) = results ++ [result] := by
      rw [resultsOf, List.filterMap_append, ← hresults]
      rfl
    obtain ⟨hcalling, -⟩ | ⟨-, s, helapsed, hcalling, -⟩ := (r.take result).goes_on
    · exact ⟨_, _, hmore, hall, hcalling⟩
    · refine ⟨_, s, machine.run_append hmore (machine.run_singleton.mpr helapsed), ?_, hcalling⟩
      rw [resultsOf, List.filterMap_append]
      exact (List.append_nil _).trans hall

/-- **Accepting goes on for ever.** After any run, in which the calls to accept gave some results
while handlers and feeds went on in any order, the reception waits in a call to accept that may give
anything, or in a pause that leads to one. By then one more call than there are results has been
made, each after a wait of 100 milliseconds for every result before it that is a fault but not one
of the peer. The connections were handed to a handler each, which is the connection of its number in
the one audience, in the order in which they came. The log is the line about the address, if that is
known, and a line for each result, which is a warning if a pause follows and a detail if not. Every
list of results occurs. -/
theorem accepts_for_ever (address : Option Address.Socket) :
    (∀ {moves : List Move} {r : Reception} {notes : List Traffic.Note},
      machine.run (start address) moves = some (r, notes) →
      ∃ results, resultsOf moves = results ∧
        ((r.standing = .calling ∧ r.acceptor = r.settled ∧
            ∀ result, machine r (.accept result) = some (r.take result, [])) ∨
          (r.standing = .pausing ∧ ∃ s, machine r .elapsed = some (s, []) ∧
            s.standing = .calling ∧ s.acceptor = r.settled)) ∧
        r.settled = (Acceptor.start address).run results ∧
        r.settled.calls.length = results.length + 1 ∧
        (∀ n ≤ results.length,
          r.settled.calls[n]? = some (100 * (results.take n).countP Accepted.backsOff)) ∧
        r.settled.handled = results.filterMap Accepted.peer? ∧
        r.connections.length = r.settled.handled.length ∧
        Audience.machine.run Audience.start (audienceOf moves) = some (r.toAudience, notes) ∧
        r.settled.log =
          address.toList.map Acceptor.listeningLine ++ results.map Accepted.line) ∧
    (∀ result : Accepted, result.line.level = if result.backsOff then .warn else .debug) ∧
    (∀ kind text, (Accepted.fault kind text).backsOff = true ↔
      kind ≠ .aborted ∧ kind ≠ .reset ∧ kind ≠ .interrupted) ∧
    (∀ peer, (Accepted.connection peer).backsOff = false) ∧
    ∀ results, ∃ moves r, machine.run (start address) moves = some (r, []) ∧
      resultsOf moves = results ∧ r.standing = .calling := by
  refine ⟨fun {moves r notes} hrun => ?_, Accepted.line_level, fun _ _ => Accepted.backsOff_iff,
    fun _ => rfl, exists_run_of_results address⟩
  obtain ⟨hsettled, haudience⟩ := settled_of_run hrun
  have hlength := length_connections_of_run haudience
  rw [countP_comes_audienceOf hrun] at hlength
  have hfar := hsettled.trans (Acceptor.run_start address _)
  refine ⟨_, rfl, r.goes_on, hsettled, ?_, fun n hn => ?_, ?_, ?_, haudience, ?_⟩
  · rw [hfar, List.length_map, List.length_range]
  · rw [hfar, List.getElem?_map, List.getElem?_range (Nat.lt_succ_of_le hn)]
    rfl
  · rw [hfar]
    rfl
  · rw [hfar, hlength]
  · rw [hfar]

/-- What may happen to a reception: a fault that is not of the peer, a connection, another such
fault, a client that is welcomed during the pause for it, a fault of the peer, and another
connection. -/
def bustle : List Move :=
  [.accept (.fault .other "no files left"), .elapsed,
    .accept (.connection { ip := .v4 ⟨0x7F000001⟩, number := 4000 }),
    .accept (.fault .denied "denied"), .audience (.welcome 0 "x" 10), .elapsed,
    .accept (.fault .aborted "gone"),
    .accept (.connection { ip := .v4 ⟨0x7F000001⟩, number := 4001 })]

/-- After five results and two pauses the sixth call waits, and the second connection is there. -/
theorem calls_of_bustle :
    ∃ r notes, machine.run (start none) bustle = some (r, notes) ∧
      r.settled.calls.length = 6 ∧ r.settled.calls[2]? = some 100 ∧
      r.settled.calls[5]? = some 200 ∧ r.connections.length = 2 ∧
      r.settled.log = (resultsOf bustle).map Accepted.line := by
  have hsome : (machine.run (start none) bustle).isSome = true := by decide +kernel
  obtain ⟨⟨r, notes⟩, hrun⟩ := Option.isSome_iff_exists.mp hsome
  obtain ⟨_, rfl, -, -, hlength, hcalls, hhandled, hconnections, -, hlog⟩ :=
    (accepts_for_ever none).1 hrun
  refine ⟨r, notes, hrun, hlength, hcalls 2 (by decide), hcalls 5 (by decide), ?_, hlog⟩
  rw [hconnections, hhandled]
  rfl

end Reception

end FeedRelay
