import FeedRelay.CommandLine.Run
import FeedRelay.Proofs.Feed.ShutdownEnds
import FeedRelay.Proofs.Relay.Audience

/-!
# The program on its way

A program that has come through its beginning subscribes to its topics, one after another, then
serves until there is a reason to leave, tears down all subscriptions and returns. While a call of
its service is under way, and at any other time, the tasks of the service go on, and so do the
downstream connections that have been accepted. Which of them makes the next step, what the network
answers, what a call to accept gives and when an interrupt comes is up to the environment. An
interrupt counts only while the program serves.

A program that serves may leave because an interrupt comes, because all subscriptions of one that
watches are closed, or because accepting has come to its end (`Server.hasReturned`), and the last
would be a failure. But accepting never comes to its end: whatever a call to accept gives, another
one is made (`Server.Waits.take`). The invariant `Program.Fits` says for each stage of a program
what its service is doing then, and that one which relays leaves only when it was interrupted.

The notes of a run are what the program itself, its server, its clients and its handler write; the
log of its service and of the tasks is left out.

## Main results

* `Program.Reached`: what holds of a program after any run.
* `Program.exists_serving`, `Program.exists_returned`: a program can come to serve by itself, and
  one that leaves can return by itself.
* `Program.endures_of_run`: what a program keeps to, whatever happens.
-/

namespace FeedRelay

/-- What may happen to a connection: its handshake fails or is done, or something happens to its
client. -/
inductive Connection.Happening where
  | turnAway (fault : String)
  | welcome (id : String) (now : Int)
  | client (happening : Client.Happening)

/-- What comes of what happens to a connection: the hub, the connection and the log; `none` if that
cannot happen now. -/
def Connection.step (hub : Hub) : Connection → Happening →
    Option (Hub × Connection × List Log.Line)
  | .greeting, .turnAway fault => some (hub, .turnedAway, [Client.handshakeLine fault])
  | .greeting, .welcome id now =>
    let welcomed := Client.welcome hub id now
    some (welcomed.hub, .served welcomed.client, welcomed.log)
  | .served c, .client happening =>
    (c.step hub happening).map fun next => (next.hub, .served next.client, next.log)
  | _, _ => none

end FeedRelay

namespace FeedRelay.CommandLine

/-- A server: how far accepting is, and how many of its calls to accept have come out. -/
structure Server where
  acceptor : Acceptor
  answered : Nat

namespace Server

/-- Start to accept on an address. -/
def start (socket : Address.Socket) : Server :=
  { acceptor := .start (some socket), answered := 0 }

/-- A call to accept comes out. -/
def take (server : Server) (result : Accepted) : Server :=
  { acceptor := server.acceptor.step result, answered := server.answered + 1 }

/-- What is logged about what a call to accept gives. -/
def logOf (server : Server) (result : Accepted) : List Log.Line :=
  (server.acceptor.step result).log.drop server.acceptor.log.length

/-- Whether accepting has come to its end: all calls to accept have come out. -/
def hasReturned (server : Server) : Bool :=
  server.acceptor.calls.length ≤ server.answered

end Server

/-- What a program is doing: it will subscribe to some topics, or waits for a subscription with
some topics left; it serves, which is to accept connections if it relays; it tears everything down;
or it has returned. -/
inductive Doing where
  | subscribing (left : List Topic)
  | awaiting (topic : Topic) (left : List Topic)
  | serving (server : Option Server)
  | leaving (outcome : Except Failure Unit)
  | returned (outcome : Except Failure Unit)

/-- Whether a program leaves or has returned. -/
def Doing.isEnding : Doing → Bool
  | .leaving _ | .returned _ => true
  | _ => false

/-- The outcome of a program that has returned. -/
def Doing.outcome? : Doing → Option (Except Failure Unit)
  | .returned outcome => some outcome
  | _ => none

/-- What a program is there for that listens somewhere, or nowhere. -/
def taskOf (listener : Option Address.Socket) : Task :=
  if listener.isSome then .relay else .watch

theorem taskOf_eq_relay {listener : Option Address.Socket} :
    taskOf listener = .relay ↔ listener.isSome = true := by
  cases listener <;> simp [taskOf]

/-- What a program logs about a subscription that has come out. -/
def announcement : Task → Topic → Except Failure Feed.State → List Log.Line
  | .relay, topic, .ok state =>
    [Log.info .program ("Relaying " ++ topic.displayKey ++ " (" ++ state.label ++ ")")]
  | .watch, _, .ok _ => []
  | _, topic, .error failure =>
    [Log.warn .program
      ("Could not subscribe to " ++ topic.displayKey ++ ": " ++ failure.message)]

/-- What a program does next when a call of its service has returned, and what it logs. -/
def Doing.after (task : Task) : Doing → Feed.Outcome → Doing × List Log.Line
  | .awaiting topic left, .subscribed result =>
    (.subscribing left, announcement task topic result)
  | .leaving outcome, .cleared => (.returned outcome, [])
  | doing, _ => (doing, [])

/-- A program: where it listens if it relays, its service, the downstream endpoints and
connections, and what it is doing. -/
structure Program where
  listener : Option Address.Socket
  service : Feed.Service
  hub : Hub
  connections : List Connection
  doing : Doing

namespace Program

/-- What may happen to a program: it calls its service for the next topic, a call or a task of the
service makes a step, the program begins to serve, a call to accept comes out, something happens to
a downstream connection; or the program begins to leave, since accepting has come to its end, all
subscriptions are closed, or an interrupt comes. It tears down the subscriptions in some order. -/
inductive Move where
  | subscribe
  | service (move : Feed.Service.Move)
  | serve
  | accept (result : Accepted)
  | connection (number : Nat) (happening : Connection.Happening)
  | serverReturned (order : List Nat)
  | allClosed (order : List Nat)
  | interrupt (order : List Nat)

/-- Whether a move is an interrupt. -/
def Move.isInterrupt : Move → Bool
  | .interrupt _ => true
  | _ => false

/-- Whether a program makes a move by itself, with attempts to connect that a network answers. -/
def Move.IsOwn (network : Feed.Connect) : Move → Prop
  | .subscribe | .serve => True
  | .service move => move.isOwn = true ∨ move = .connected network
  | _ => False

/-- A program that has come through its beginning. -/
def start (listener : Option Address.Socket) (base : Url) (policy : ReconnectPolicy)
    (topics : List Topic) : Program where
  listener
  service := .start base policy
  hub := .empty
  connections := []
  doing := .subscribing topics

/-- What a program is there for. -/
def task (p : Program) : Task :=
  taskOf p.listener

/-- The program with another service. -/
def withService (p : Program) (service : Feed.Service) : Program :=
  { p with service }

/-- Take note of what the service reports: the handler is told of an event, or a call returns. -/
def hear (p : Program) : Feed.Report → Program × List Written
  | .told _ topic event =>
    let (hub, written) := Run.write p.task p.hub (.handle topic event)
    ({ p with hub }, written)
  | .returned outcome =>
    let (doing, log) := p.doing.after p.task outcome
    ({ p with doing }, log.map .log)

/-- Take note of all that the service reports. -/
def hearAll (p : Program) : List Feed.Report → Program × List Written
  | [] => (p, [])
  | report :: rest =>
    let (q, first) := p.hear report
    let (r, later) := q.hearAll rest
    (r, first ++ later)

/-- Make a move of the service. -/
def call (p : Program) (move : Feed.Service.Move) : Option (Program × List Written) :=
  (Feed.Service.machine p.service move).map fun (service, reports) =>
    (p.withService service).hearAll reports

/-- Begin to leave with an outcome: tear down all subscriptions. -/
def leave (p : Program) (outcome : Except Failure Unit) (line : Log.Line) (order : List Nat) :
    Option (Program × List Written) :=
  ({ p with doing := .leaving outcome }.call (.shutdown order)).map fun (q, written) =>
    (q, .log line :: written)

/-- The machine of programs. -/
def machine : Machine Program Move Written
  | p, .subscribe =>
    match p.doing with
    | .subscribing (topic :: left) =>
      { p with doing := .awaiting topic left }.call (.subscribeTopic topic)
    | _ => none
  | p, .service move => if move.isInner then p.call move else none
  | p, .serve =>
    match p.doing, p.listener with
    | .subscribing [], some socket =>
      let server := Server.start socket
      some ({ p with doing := .serving (some server) }, server.acceptor.log.map .log)
    | .subscribing [], none =>
      if p.service.entries.isEmpty then
        some ({ p with doing := .returned (.ok ()) },
          [.log (Log.warn .program "No topic could be subscribed.")])
      else some ({ p with doing := .serving none }, [])
    | _, _ => none
  | p, .accept result =>
    match p.doing with
    | .serving (some server) =>
      let more := match result with
        | .connection _ => [.greeting]
        | .fault _ _ => []
      some ({ p with doing := .serving (some (server.take result))
                     connections := p.connections ++ more },
        (server.logOf result).map .log)
    | _ => none
  | p, .connection n happening =>
    (p.connections[n]?.bind (·.step p.hub happening)).map fun (hub, connection, log) =>
      ({ p with hub, connections := p.connections.set n connection }, log.map .log)
  | p, .serverReturned order =>
    match p.doing with
    | .serving (some server) =>
      if server.hasReturned then
        p.leave (.error .serverStopped)
          (Log.error .program "Downstream server exited unexpectedly.") order
      else none
    | _ => none
  | p, .allClosed order =>
    match p.doing with
    | .serving none =>
      if p.service.entries.all p.service.isOver then
        p.leave (.ok ()) (Log.info .program "All subscriptions closed.") order
      else none
    | _ => none
  | p, .interrupt order =>
    match p.doing with
    | .serving _ =>
      p.leave (.ok ()) (Log.info .program "Shutdown signal received. Exiting gracefully.") order
    | _ => none

/-! ### What the reports of the service do -/

section Reports

variable (p : Program) (service : Feed.Service) {reports : List Feed.Report}

theorem hearAll_append (reports more : List Feed.Report) :
    p.hearAll (reports ++ more) = (((p.hearAll reports).1.hearAll more).1,
      (p.hearAll reports).2 ++ ((p.hearAll reports).1.hearAll more).2) := by
  induction reports generalizing p with
  | nil => rfl
  | cons report rest ih =>
    simp only [List.cons_append, hearAll, ih, List.append_assoc]

/-- The service is as it was, and so is where the program listens. -/
theorem hearAll_kept (reports : List Feed.Report) :
    (p.hearAll reports).1.service = p.service ∧ (p.hearAll reports).1.listener = p.listener := by
  induction reports generalizing p with
  | nil => exact ⟨rfl, rfl⟩
  | cons report rest ih =>
    have hhear : (p.hear report).1.service = p.service ∧
        (p.hear report).1.listener = p.listener := by
      cases report <;> exact ⟨rfl, rfl⟩
    exact ⟨(ih _).1.trans hhear.1, (ih _).2.trans hhear.2⟩

/-- What the service reports does not depend on where it is by then. -/
theorem hearAll_withService (reports : List Feed.Report) :
    (p.withService service).hearAll reports =
      ((p.hearAll reports).1.withService service, (p.hearAll reports).2) := by
  induction reports generalizing p with
  | nil => rfl
  | cons report rest ih =>
    have hhear : (p.withService service).hear report =
        ((p.hear report).1.withService service, (p.hear report).2) := by
      cases report <;> rfl
    simp only [hearAll, hhear, ih]

/-- Events of the feeds do not change what the program is doing. -/
theorem doing_hearAll_of_told
    (htold : ∀ report ∈ reports, ∃ n topic event, report = .told n topic event) :
    (p.hearAll reports).1.doing = p.doing := by
  induction reports generalizing p with
  | nil => rfl
  | cons report rest ih =>
    obtain ⟨htold, hrest⟩ := List.forall_mem_cons.mp htold
    obtain ⟨n, topic, event, rfl⟩ := htold
    exact ih _ hrest

theorem doing_hearAll_returned (outcome : Feed.Outcome) :
    (p.hearAll [.returned outcome]).1.doing = (p.doing.after p.task outcome).1 := rfl

end Reports

variable {p q : Program} {written : List Written}

theorem call_eq_some {move : Feed.Service.Move} :
    p.call move = some (q, written) ↔ ∃ t reports, Feed.Service.machine p.service move =
      some (t, reports) ∧ (p.withService t).hearAll reports = (q, written) := by
  rw [call, Option.map_eq_some_iff]
  simp

/-- A call of the service, with what the service does afterwards. -/
private theorem run_of_call {r : Program} {move : Move} {later : List Move}
    {call : Feed.Service.Move} {s t : Feed.Service} {first more : List Feed.Report}
    (hmove : machine p move = r.call call)
    (hcall : Feed.Service.machine r.service call = some (s, first))
    (hlater : machine.run ((r.withService s).hearAll first).1 later =
      some ((((r.withService s).hearAll first).1.withService t).hearAll more)) :
    machine.run p (move :: later) = some ((r.withService t).hearAll (first ++ more)) := by
  have hstep : machine p move = some ((r.withService s).hearAll first) := by
    rw [hmove, Program.call, hcall, Option.map_some]
  have hall := machine.run_append (machine.run_singleton.mpr hstep) hlater
  rw [hearAll_append]
  simp only [hearAll_withService] at hall ⊢
  exact hall

/-- What the service can do between two calls, the program can do. -/
theorem run_service {inner : List Feed.Service.Move} {t : Feed.Service}
    {reports : List Feed.Report} (hinner : ∀ move ∈ inner, move.isInner = true)
    (h : Feed.Service.machine.run p.service inner = some (t, reports)) :
    machine.run p (inner.map .service) = some ((p.withService t).hearAll reports) := by
  induction inner generalizing p reports with
  | nil =>
    cases h
    rfl
  | cons move rest ih =>
    obtain ⟨hmove, hrest⟩ := List.forall_mem_cons.mp hinner
    obtain ⟨⟨s, first⟩, hfirst, h⟩ := Option.bind_eq_some_iff.mp h
    obtain ⟨⟨_, later⟩, hlater, heq⟩ := Option.map_eq_some_iff.mp h
    obtain ⟨rfl, rfl⟩ := Prod.mk.inj heq
    refine run_of_call (if_pos hmove) hfirst (ih hrest ?_)
    rw [(hearAll_kept _ first).1]
    exact hlater

/-- The program can subscribe to its next topic as the service can. -/
theorem run_subscribe {topic : Topic} {left : List Topic} {inner : List Feed.Service.Move}
    {t : Feed.Service} {reports : List Feed.Report}
    (hdoing : p.doing = .subscribing (topic :: left))
    (hinner : ∀ move ∈ inner, move.isInner = true)
    (h : Feed.Service.machine.run p.service (.subscribeTopic topic :: inner) =
      some (t, reports)) :
    machine.run p (.subscribe :: inner.map .service) =
      some (({ p with doing := .awaiting topic left }.withService t).hearAll reports) := by
  obtain ⟨⟨s, first⟩, hfirst, h⟩ := Option.bind_eq_some_iff.mp h
  obtain ⟨⟨_, later⟩, hlater, heq⟩ := Option.map_eq_some_iff.mp h
  obtain ⟨rfl, rfl⟩ := Prod.mk.inj heq
  refine run_of_call ?_ hfirst (run_service hinner ?_)
  · simp only [machine, hdoing]
  · rw [(hearAll_kept _ first).1]
    exact hlater

/-! ### What a move can do -/

/-- Why a program leaves, and with which outcome: accepting has come to its end, all subscriptions
are closed, or an interrupt comes. -/
inductive Leaves (p : Program) : Move → List Nat → Except Failure Unit → Prop
  | stopped {server : Server} {order : List Nat} (hdoing : p.doing = .serving (some server))
      (hreturned : server.hasReturned = true) :
      Leaves p (.serverReturned order) order (.error .serverStopped)
  | closed {order : List Nat} (hdoing : p.doing = .serving none)
      (hover : p.service.entries.all p.service.isOver = true) :
      Leaves p (.allClosed order) order (.ok ())
  | interrupted {server : Option Server} {order : List Nat} (hdoing : p.doing = .serving server) :
      Leaves p (.interrupt order) order (.ok ())

/-- What a move does: the service is called or makes a step, the program begins to serve or has
nothing to do, a call to accept comes out, a connection goes on, or the program begins to leave. -/
inductive Change (p : Program) : Move → Program → Prop
  | subscribe {topic : Topic} {left : List Topic} {t : Feed.Service}
      {reports : List Feed.Report} (hdoing : p.doing = .subscribing (topic :: left))
      (hcall : Feed.Service.machine p.service (.subscribeTopic topic) = some (t, reports)) :
      Change p .subscribe
        (({ p with doing := .awaiting topic left }.withService t).hearAll reports).1
  | service {inner : Feed.Service.Move} {t : Feed.Service} {reports : List Feed.Report}
      (hinner : inner.isInner = true)
      (hcall : Feed.Service.machine p.service inner = some (t, reports)) :
      Change p (.service inner) ((p.withService t).hearAll reports).1
  | serve {server : Option Server} (hdoing : p.doing = .subscribing [])
      (hlistener : p.listener.map Server.start = server) :
      Change p .serve { p with doing := .serving server }
  | nothing (hdoing : p.doing = .subscribing []) (hlistener : p.listener = none)
      (hentries : p.service.entries = []) : Change p .serve { p with doing := .returned (.ok ()) }
  | accept {server : Server} {result : Accepted} (more : List Connection)
      (hdoing : p.doing = .serving (some server)) :
      Change p (.accept result) { p with doing := .serving (some (server.take result))
                                         connections := p.connections ++ more }
  | connection {n : Nat} {happening : Connection.Happening} (hub : Hub)
      (connections : List Connection) :
      Change p (.connection n happening) { p with hub, connections }
  | leave {move : Move} {order : List Nat} {outcome : Except Failure Unit} {t : Feed.Service}
      {reports : List Feed.Report} (hleaves : p.Leaves move order outcome)
      (hcall : Feed.Service.machine p.service (.shutdown order) = some (t, reports)) :
      Change p move (({ p with doing := .leaving outcome }.withService t).hearAll reports).1

private theorem change_leave {move : Move} {order : List Nat} {outcome : Except Failure Unit}
    {line : Log.Line} (hleaves : p.Leaves move order outcome)
    (h : p.leave outcome line order = some (q, written)) : Change p move q := by
  obtain ⟨⟨_, more⟩, hcall, heq⟩ := Option.map_eq_some_iff.mp h
  obtain ⟨rfl, -⟩ := Prod.mk.inj heq
  obtain ⟨t, reports, hmove, hq⟩ := call_eq_some.mp hcall
  have hchange := Change.leave hleaves hmove
  rw [hq] at hchange
  exact hchange

/-- All that a move can do. -/
theorem change_of_machine {move : Move} (h : machine p move = some (q, written)) :
    Change p move q := by
  cases move with
  | subscribe =>
    simp only [machine] at h
    split at h
    · rename_i hdoing
      obtain ⟨t, reports, hcall, hq⟩ := call_eq_some.mp h
      have hchange := Change.subscribe hdoing hcall
      rw [hq] at hchange
      exact hchange
    · cases h
  | service inner =>
    obtain ⟨hinner, h⟩ := Option.ite_none_right_eq_some.mp h
    obtain ⟨t, reports, hcall, hq⟩ := call_eq_some.mp h
    have hchange := Change.service hinner hcall
    rw [hq] at hchange
    exact hchange
  | serve =>
    simp only [machine] at h
    split at h
    · rename_i socket hdoing hlistener
      cases h
      exact .serve hdoing (by rw [hlistener]; rfl)
    · rename_i hdoing hlistener
      split at h
      · rename_i hentries
        cases h
        exact .nothing hdoing hlistener (List.isEmpty_iff.mp hentries)
      · cases h
        exact .serve hdoing (by rw [hlistener]; rfl)
    · cases h
  | accept result =>
    simp only [machine] at h
    split at h
    · cases h
      exact .accept _ ‹_›
    · cases h
  | connection n happening =>
    obtain ⟨⟨hub, connection, log⟩, -, heq⟩ := Option.map_eq_some_iff.mp h
    obtain ⟨rfl, -⟩ := Prod.mk.inj heq
    exact .connection _ _
  | serverReturned order =>
    simp only [machine] at h
    split at h
    · obtain ⟨hreturned, h⟩ := Option.ite_none_right_eq_some.mp h
      exact change_leave (.stopped ‹_› hreturned) h
    · cases h
  | allClosed order =>
    simp only [machine] at h
    split at h
    · obtain ⟨hover, h⟩ := Option.ite_none_right_eq_some.mp h
      exact change_leave (.closed ‹_› hover) h
    · cases h
  | interrupt order =>
    simp only [machine] at h
    split at h
    · exact change_leave (.interrupted ‹_›) h
    · cases h

/-! ### Stages -/

end Program

/-- A server waits for the last of its calls to accept. -/
def Server.Waits (server : Server) : Prop :=
  server.acceptor.calls.length = server.answered + 1

namespace Server

theorem waits_start (socket : Address.Socket) : (start socket).Waits := rfl

/-- Whatever a call to accept gives, another one is made. -/
theorem Waits.take {server : Server} (h : server.Waits) (result : Accepted) :
    (server.take result).Waits := by
  have hagain (a : Acceptor) (wait : Nat) (line : Log.Line) :
      (a.again wait line).calls.length = a.calls.length + 1 := by
    simp [Acceptor.again]
  have hstep : (server.acceptor.step result).calls.length =
      server.acceptor.calls.length + 1 := by
    cases result with
    | connection peer => exact hagain _ _ _
    | fault kind text =>
      simp only [Acceptor.step]
      split
      · exact hagain _ _ _
      · exact hagain _ _ _
  exact hstep.trans (congrArg (· + 1) h)

theorem Waits.hasReturned_eq_false {server : Server} (h : server.Waits) :
    server.hasReturned = false := by
  refine decide_eq_false (Nat.not_le.mpr ?_)
  rw [h]
  exact Nat.lt_succ_self _

end Server

namespace Program

/-- What the service is doing at each stage of a program, and what else holds there: a server waits
for its next connection, and a program that relays leaves only when it was interrupted. -/
inductive Fits (listener : Option Address.Socket) (interrupted : Prop) :
    Doing → Feed.Service → Prop
  | subscribing {left : List Topic} {s : Feed.Service} (hidle : s.call.isIdle = true) :
      Fits listener interrupted (.subscribing left) s
  | awaiting {topic : Topic} {left : List Topic} {s : Feed.Service}
      (htopic : s.call.topic? = some topic) :
      Fits listener interrupted (.awaiting topic left) s
  | serving {server : Option Server} {s : Feed.Service} (hidle : s.call.isIdle = true)
      (hlistener : server.isSome = listener.isSome) (hwaits : ∀ x ∈ server, x.Waits) :
      Fits listener interrupted (.serving server) s
  | leaving {s : Feed.Service} (hclearing : s.call.isClearing = true) (hentries : s.entries = [])
      (hwhy : listener.isSome = true → interrupted) :
      Fits listener interrupted (.leaving (.ok ())) s
  | returned {s : Feed.Service} (hidle : s.call.isIdle = true) (hentries : s.entries = [])
      (hwhy : listener.isSome = true → interrupted) :
      Fits listener interrupted (.returned (.ok ())) s

variable {p q : Program} {move : Move} {before moves : List Move} {written : List Written}
  {listener : Option Address.Socket} {base : Url} {policy : ReconnectPolicy} {topics : List Topic}
  {interrupted further : Prop} {doing : Doing} {s t : Feed.Service} {reports : List Feed.Report}

theorem Fits.mono (h : Fits listener interrupted doing s) (himp : interrupted → further) :
    Fits listener further doing s := by
  cases h with
  | subscribing hidle => exact .subscribing hidle
  | awaiting htopic => exact .awaiting htopic
  | serving hidle hlistener hwaits => exact .serving hidle hlistener hwaits
  | leaving hclearing hentries hwhy => exact .leaving hclearing hentries fun hl => himp (hwhy hl)
  | returned hidle hentries hwhy => exact .returned hidle hentries fun hl => himp (hwhy hl)

/-- The service makes a step of a call or of a task, and the program goes on accordingly. -/
theorem Fits.of_goes (h : Fits listener interrupted doing s) (hdoing : p.doing = doing)
    (hgoes : s.Goes t reports) : Fits listener interrupted (p.hearAll reports).1.doing t := by
  cases hgoes with
  | on hreports hidle htopic hclearing hentries =>
    rw [doing_hearAll_of_told p hreports, hdoing]
    cases h with
    | subscribing h => exact .subscribing (hidle.trans h)
    | awaiting h => exact .awaiting (htopic.trans h)
    | serving h hlistener hwaits => exact .serving (hidle.trans h) hlistener hwaits
    | leaving h hnone hwhy => exact .leaving (hclearing.trans h) (hentries.trans hnone) hwhy
    | returned h hnone hwhy => exact .returned (hidle.trans h) (hentries.trans hnone) hwhy
  | @subscribed topic result hcall hidle hreports =>
    rw [hreports, doing_hearAll_returned, hdoing]
    cases h with
    | subscribing h => cases hcall.symm.trans (Feed.Call.topic?_of_isIdle h)
    | awaiting => exact .subscribing (by rw [hidle]; rfl)
    | serving h => cases hcall.symm.trans (Feed.Call.topic?_of_isIdle h)
    | leaving h => cases hcall.symm.trans (Feed.Call.topic?_of_isClearing h)
    | returned h => cases hcall.symm.trans (Feed.Call.topic?_of_isIdle h)
  | unsubscribed hcall =>
    cases h <;> simp_all [Feed.Call.isIdle, Feed.Call.isClearing, Feed.Call.topic?]
  | cleared hcall hidle hreports hentries =>
    have hnot (hs : s.call.isIdle = true) : False :=
      nomatch hcall.symm.trans (Feed.Call.isClearing_of_awaited (Feed.Call.awaited_of_isIdle hs))
    rw [hreports, doing_hearAll_returned, hdoing]
    cases h with
    | subscribing h => exact absurd h hnot
    | awaiting h => cases h.symm.trans (Feed.Call.topic?_of_isClearing hcall)
    | serving h => exact absurd h hnot
    | leaving _ hnone hwhy => exact .returned (by rw [hidle]; rfl) (hentries.trans hnone) hwhy
    | returned h => exact absurd h hnot

/-- A program begins to leave: it tears down its subscriptions, or has returned if there are
none. -/
theorem fits_of_leave {order : List Nat} {outcome : Except Failure Unit} (hok : outcome = .ok ())
    (hwhy : listener.isSome = true → interrupted)
    (hcall : Feed.Service.machine s (.shutdown order) = some (t, reports)) (p : Program) :
    Fits listener interrupted
      (({ p with doing := .leaving outcome }.withService t).hearAll reports).1.doing t := by
  subst hok
  obtain ⟨hentries, ⟨hidle, rfl⟩ | ⟨hclearing, rfl⟩⟩ := Feed.Service.shutdown_cases hcall
  · exact .returned (by rw [hidle]; rfl) hentries hwhy
  · exact .leaving hclearing hentries hwhy

/-- A program stays in keeping with its service, and leaves with success. -/
theorem Fits.step (h : Fits p.listener interrupted p.doing p.service)
    (hstep : machine p move = some (q, written)) :
    q.listener = p.listener ∧
      (q.service = p.service ∨ ∃ call reports, Feed.Service.machine p.service call =
        some (q.service, reports)) ∧
      Fits p.listener (interrupted ∨ move.isInterrupt = true) q.doing q.service := by
  have hheard (r : Program) (t : Feed.Service) (reports : List Feed.Report) :
      ((r.withService t).hearAll reports).1.service = t ∧
        ((r.withService t).hearAll reports).1.listener = r.listener :=
    hearAll_kept _ reports
  cases change_of_machine hstep with
  | @subscribe topic left t reports hdoing hcall =>
    obtain ⟨hservice, hlistener⟩ := hheard { p with doing := .awaiting topic left } t reports
    refine ⟨hlistener, .inr ⟨_, reports, hservice.symm ▸ hcall⟩, ?_⟩
    rw [hservice]
    obtain ⟨rfl, failure, rfl⟩ | ⟨htopic, rfl⟩ := Feed.Service.subscribeTopic_cases hcall
    · rw [hdoing] at h
      cases h with
      | subscribing hidle => exact .subscribing hidle
    · exact .awaiting htopic
  | @service inner t reports hinner hcall =>
    obtain ⟨hservice, hlistener⟩ := hheard p t reports
    refine ⟨hlistener, .inr ⟨_, reports, hservice.symm ▸ hcall⟩, ?_⟩
    rw [hservice]
    exact (h.mono Or.inl).of_goes rfl (Feed.Service.goes_of_inner hinner hcall)
  | serve hdoing hlistener =>
    rw [hdoing] at h
    cases h with
    | subscribing hidle =>
      subst hlistener
      refine ⟨rfl, .inl rfl, .serving hidle (by simp) fun server hserver => ?_⟩
      obtain ⟨socket, -, rfl⟩ := Option.map_eq_some_iff.mp hserver
      exact Server.waits_start socket
  | nothing hdoing hlistener hentries =>
    rw [hdoing] at h
    cases h with
    | subscribing hidle =>
      exact ⟨rfl, .inl rfl, .returned hidle hentries (by simp [hlistener])⟩
  | accept more hdoing =>
    rw [hdoing] at h
    cases h with
    | serving hidle hlistener hwaits =>
      refine ⟨rfl, .inl rfl, .serving hidle hlistener fun server hserver => ?_⟩
      obtain rfl := Option.some.inj hserver
      exact (hwaits _ rfl).take _
  | connection => exact ⟨rfl, .inl rfl, h.mono .inl⟩
  | @leave _ order outcome t reports hleaves hcall =>
    obtain ⟨hservice, hlistener⟩ := hheard { p with doing := .leaving outcome } t reports
    refine ⟨hlistener, .inr ⟨_, reports, hservice.symm ▸ hcall⟩, ?_⟩
    rw [hservice]
    cases hleaves with
    | stopped hdoing hreturned =>
      rw [hdoing] at h
      cases h with
      | serving _ _ hwaits =>
        rw [(hwaits _ rfl).hasReturned_eq_false] at hreturned
        cases hreturned
    | closed hdoing =>
      rw [hdoing] at h
      cases h with
      | serving _ hlistener => exact fits_of_leave rfl (by simp [← hlistener]) hcall p
    | interrupted => exact fits_of_leave rfl (fun _ => .inr rfl) hcall p

/-- What holds of a program that has come from its start by some moves. -/
structure Reached (listener : Option Address.Socket) (base : Url) (policy : ReconnectPolicy)
    (moves : List Move) (p : Program) : Prop where
  listener_eq : p.listener = listener
  exists_run : ∃ calls reports, Feed.Service.machine.run (.start base policy) calls =
    some (p.service, reports)
  fits : Fits listener (∃ move ∈ moves, move.isInterrupt = true) p.doing p.service

theorem reached_start (listener : Option Address.Socket) (base : Url) (policy : ReconnectPolicy)
    (topics : List Topic) :
    Reached listener base policy [] (start listener base policy topics) :=
  ⟨rfl, ⟨[], [], rfl⟩, .subscribing rfl⟩

theorem Reached.step (h : Reached listener base policy before p)
    (hstep : machine p move = some (q, written)) :
    Reached listener base policy (before ++ [move]) q := by
  obtain ⟨rfl, ⟨calls, reports, hrun⟩, hfits⟩ := h
  obtain ⟨hlistener, hservice, hnext⟩ := hfits.step hstep
  refine ⟨hlistener, ?_, hnext.mono ?_⟩
  · obtain hsame | ⟨call, more, hcall⟩ := hservice
    · exact ⟨calls, reports, hsame ▸ hrun⟩
    · exact ⟨_, _, Feed.Service.machine.run_append hrun
        (Feed.Service.machine.run_singleton.mpr hcall)⟩
  · rintro (⟨earlier, hmem, hinterrupt⟩ | hinterrupt)
    · exact ⟨earlier, List.mem_append_left _ hmem, hinterrupt⟩
    · exact ⟨move, List.mem_append_right _ (List.mem_singleton_self _), hinterrupt⟩

theorem Reached.run (h : Reached listener base policy before p)
    (hrun : machine.run p moves = some (q, written)) :
    Reached listener base policy (before ++ moves) q := by
  refine Machine.run_induction
    (motive := fun moves q _ => Reached listener base policy (before ++ moves) q) ?_ ?_ hrun
  · rwa [List.append_nil]
  · intro moves _ _ move _ _ _ hreached hstep
    rw [← List.append_assoc]
    exact hreached.step hstep

theorem Reached.orderly (h : Reached listener base policy before p) : p.service.Orderly := by
  obtain ⟨calls, reports, hrun⟩ := h.exists_run
  exact (Feed.Service.reached_of_run hrun).orderly

/-- While a program serves, no call of its service is under way, and it accepts just if it
listens. -/
theorem Reached.of_serving (h : Reached listener base policy before p) {server : Option Server}
    (hdoing : p.doing = .serving server) :
    p.service.call.isIdle = true ∧ server.isSome = listener.isSome := by
  have hfits := h.fits
  rw [hdoing] at hfits
  cases hfits with
  | serving hidle hlistener => exact ⟨hidle, hlistener⟩

/-- A program that has returned follows nothing any more. -/
theorem Reached.roster_of_returned (h : Reached listener base policy before p)
    {outcome : Except Failure Unit} (hdoing : p.doing = .returned outcome) :
    p.service.roster = { p.service.roster with followers := [] } := by
  have hfits := h.fits
  rw [hdoing] at hfits
  cases hfits with
  | returned _ hentries =>
    rw [Feed.Service.roster, hentries]
    rfl

/-- No move changes where a program connects to, and when it does so again. -/
theorem Reached.settings (h : Reached listener base policy before p) :
    p.service.base = base ∧ p.service.policy = policy := by
  obtain ⟨calls, reports, hrun⟩ := h.exists_run
  exact Feed.Service.settings_of_run hrun

/-! ### The way to the end -/

/-- What the service reports when a call returns, after events of the feeds. -/
theorem doing_hearAll_concat (p : Program)
    (htold : ∀ report ∈ reports, ∃ n topic event, report = .told n topic event)
    (outcome : Feed.Outcome) :
    (p.hearAll (reports ++ [.returned outcome])).1.doing = (p.doing.after p.task outcome).1 := by
  have htask : (p.hearAll reports).1.task = p.task := by
    rw [task, task, (hearAll_kept p reports).2]
  rw [hearAll_append, doing_hearAll_returned, doing_hearAll_of_told p htold, htask]

/-- A program that leaves can return by itself. -/
theorem exists_returned (h : Reached listener base policy before p)
    (hending : p.doing.isEnding = true) :
    ∃ (own : List Feed.Service.Move) (q : Program) (written : List Written),
      (∀ move ∈ own, move.isOwn = true) ∧
      machine.run p (own.map .service) = some (q, written) ∧ q.doing = .returned (.ok ()) := by
  obtain ⟨-, ⟨calls, seen, hrun⟩, hfits⟩ := h
  generalize hdoing : p.doing = doing at hfits hending
  cases hfits with
  | subscribing | awaiting | serving => cases hending
  | returned => exact ⟨[], p, [], by simp, rfl, hdoing⟩
  | leaving hclearing =>
    cases hcall : p.service.call with
    | clearing n rest =>
      obtain ⟨own, t, reports, hown, hgo, htold, -⟩ := Feed.Service.exists_cleared hrun hcall
      have hinner : ∀ move ∈ own, move.isInner = true := fun move hmove =>
        Feed.Service.Move.isInner_of_isOwn (hown move hmove)
      refine ⟨own, _, _, hown, run_service hinner hgo, ?_⟩
      have hleaving : (p.withService t).doing = .leaving (.ok ()) := hdoing
      rw [doing_hearAll_concat _ htold, hleaving]
      rfl
    | _ =>
      rw [hcall] at hclearing
      cases hclearing

private theorem isInner_of_isOwn {network : Feed.Connect} {inner : List Feed.Service.Move}
    (h : ∀ move ∈ inner, move.isOwn = true ∨ move = .connected network) :
    ∀ move ∈ inner, move.isInner = true := by
  intro move hmove
  rcases h move hmove with hown | rfl
  · exact Feed.Service.Move.isInner_of_isOwn hown
  · rfl

private theorem isOwn_map {network : Feed.Connect} {inner : List Feed.Service.Move}
    (h : ∀ move ∈ inner, move.isOwn = true ∨ move = .connected network) :
    ∀ move ∈ inner.map Move.service, move.IsOwn network :=
  List.forall_mem_map.mpr h

/-- A program that waits for a subscription can go on to the next one, whatever the network
answers. -/
theorem exists_subscribing (h : Reached listener base policy before p) {topic : Topic}
    {left : List Topic} (hdoing : p.doing = .awaiting topic left) (network : Feed.Connect) :
    ∃ moves q written, (∀ move ∈ moves, move.IsOwn network) ∧
      machine.run p moves = some (q, written) ∧ q.doing = .subscribing left := by
  obtain ⟨-, ⟨calls, seen, hrun⟩, hfits⟩ := h
  rw [hdoing] at hfits
  cases hfits with
  | awaiting htopic =>
    obtain ⟨inner, t, reports, result, hown, hgo, htold, -⟩ :=
      Feed.Service.exists_subscribed hrun htopic network
    refine ⟨_, _, _, isOwn_map hown, run_service (isInner_of_isOwn hown) hgo, ?_⟩
    have hawaiting : (p.withService t).doing = .awaiting topic left := hdoing
    rw [doing_hearAll_concat _ htold, hawaiting]
    rfl

/-- Without interruptions a program subscribes to one topic after another, which leads where the
roster leads. -/
theorem run_subscribing (h : Reached listener base policy before p) {left : List Topic}
    (hdoing : p.doing = .subscribing left) (network : Feed.Connect) :
    ∃ moves q written, (∀ move ∈ moves, move.IsOwn network) ∧
      machine.run p moves = some (q, written) ∧ q.doing = .subscribing [] ∧
      q.service.roster = left.foldl (fun roster topic => (roster.subscribe network topic).roster)
        p.service.roster := by
  induction left generalizing p before with
  | nil => exact ⟨[], p, [], by simp, rfl, hdoing, rfl⟩
  | cons topic left ih =>
    have hidle : p.service.call = .idle := by
      have hfits := h.fits
      rw [hdoing] at hfits
      cases hfits with
      | subscribing hidle => exact Feed.Call.eq_idle hidle
    obtain ⟨inner, t, hinner, hrun, hroster, -⟩ :=
      Feed.Service.run_subscribeTopic h.orderly hidle topic network
    have hown : ∀ move ∈ inner, move.isOwn = true ∨ move = .connected network := by
      intro move hmove
      rcases hinner move hmove with rfl | rfl
      · exact .inl rfl
      · exact .inr rfl
    have hgo := run_subscribe hdoing (isInner_of_isOwn hown) hrun
    obtain ⟨moves, q, written, hmoves, hrest, hnext, hlast⟩ := ih (h.run hgo) rfl
    rw [List.foldl_cons, ← hroster]
    refine ⟨_, q, _, fun move hmove => ?_, machine.run_append hgo hrest, hnext, hlast⟩
    rcases List.mem_append.mp hmove with hmove | hmove
    · rcases List.mem_cons.mp hmove with rfl | hmove
      · trivial
      · exact isOwn_map hown move hmove
    · exact hmoves move hmove

theorem isEnding_hearAll (hending : p.doing.isEnding = true) (reports : List Feed.Report) :
    (p.hearAll reports).1.doing.isEnding = true := by
  induction reports generalizing p with
  | nil => exact hending
  | cons report rest ih =>
    refine ih ?_
    cases report with
    | told => exact hending
    | returned outcome =>
      change (p.doing.after p.task outcome).1.isEnding = true
      cases hdoing : p.doing with
      | leaving | returned => cases outcome <;> rfl
      | _ =>
        rw [hdoing] at hending
        cases hending

/-- A program that leaves goes back to nothing else. -/
theorem isEnding_of_run (hending : p.doing.isEnding = true)
    (h : machine.run p moves = some (q, written)) : q.doing.isEnding = true := by
  refine Machine.run_induction (motive := fun _ q _ => q.doing.isEnding = true) hending ?_ h
  intro _ r _ move _ _ _ hending hstep
  have hnot {doing : Doing} (hdoing : r.doing = doing) : doing.isEnding = true := hdoing ▸ hending
  cases change_of_machine hstep with
  | subscribe hdoing => cases hnot hdoing
  | @service _ t reports =>
    have hending : (r.withService t).doing.isEnding = true := hending
    exact isEnding_hearAll hending reports
  | serve hdoing => cases hnot hdoing
  | nothing hdoing => cases hnot hdoing
  | accept more hdoing => cases hnot hdoing
  | connection => exact hending
  | leave hleaves =>
    cases hleaves with
    | stopped hdoing => cases hnot hdoing
    | closed hdoing => cases hnot hdoing
    | interrupted hdoing => cases hnot hdoing

/-- A program that has not begun to leave can come to serve by itself, whatever the network answers.
One that watches has then nothing to do if it has no subscription. -/
theorem exists_serving (h : Reached listener base policy before p)
    (hending : p.doing.isEnding = false) (network : Feed.Connect) :
    ∃ moves q written, (∀ move ∈ moves, move.IsOwn network) ∧
      machine.run p moves = some (q, written) ∧
      ((∃ server, q.doing = .serving server) ∨
        listener = none ∧ q.doing = .returned (.ok ())) := by
  have hserve {before : List Move} {p : Program} (h : Reached listener base policy before p)
      {left : List Topic} (hdoing : p.doing = .subscribing left) :
      ∃ moves q written, (∀ move ∈ moves, move.IsOwn network) ∧
        machine.run p moves = some (q, written) ∧
        ((∃ server, q.doing = .serving server) ∨
          listener = none ∧ q.doing = .returned (.ok ())) := by
    obtain ⟨moves, q, written, hown, hrun, hlast, -⟩ := run_subscribing h hdoing network
    obtain ⟨r, seen, hstep, hr⟩ : ∃ r seen, machine q .serve = some (r, seen) ∧
        ((∃ server, r.doing = .serving server) ∨
          listener = none ∧ r.doing = .returned (.ok ())) := by
      have hlistener := (h.run hrun).listener_eq
      simp only [machine, hlast, hlistener]
      cases listener with
      | some socket => exact ⟨_, _, rfl, .inl ⟨_, rfl⟩⟩
      | none =>
        cases q.service.entries with
        | nil => exact ⟨_, _, rfl, .inr ⟨rfl, rfl⟩⟩
        | cons => exact ⟨_, _, rfl, .inl ⟨_, rfl⟩⟩
    refine ⟨_, r, _, ?_, machine.run_append hrun (machine.run_singleton.mpr hstep), hr⟩
    exact List.forall_mem_append.mpr ⟨hown, List.forall_mem_singleton.mpr trivial⟩
  cases hdoing : p.doing with
  | subscribing left => exact hserve h hdoing
  | awaiting topic left =>
    obtain ⟨moves, q, written, hown, hrun, hnext⟩ := exists_subscribing h hdoing network
    obtain ⟨later, r, more, hown', hlater, hr⟩ := hserve (h.run hrun) hnext
    exact ⟨_, r, _, List.forall_mem_append.mpr ⟨hown, hown'⟩, machine.run_append hrun hlater, hr⟩
  | serving server => exact ⟨[], p, [], by simp, rfl, .inl ⟨server, hdoing⟩⟩
  | leaving | returned =>
    rw [hdoing] at hending
    cases hending

/-- A program that tears down its subscriptions, in any order, leaves. -/
theorem exists_leave (hidle : p.service.call.isIdle = true) {order : List Nat}
    (horder : order.Perm p.service.entries) (outcome : Except Failure Unit) (line : Log.Line) :
    ∃ q written, p.leave outcome line order = some (q, written) ∧ q.doing.isEnding = true := by
  have hcall : Feed.Service.machine p.service (.shutdown order) =
      some (({ p.service with entries := [] } : Feed.Service).clear order) := by
    rw [Feed.Service.machine, if_pos ⟨hidle, horder⟩]
  simp only [leave, call, hcall, Option.map_some]
  refine ⟨_, _, rfl, isEnding_hearAll ?_ _⟩
  rfl

/-- An interrupt ends the serving at any time, and then the subscriptions are torn down in any
order. -/
theorem exists_interrupt (h : Reached listener base policy before p) {server : Option Server}
    (hdoing : p.doing = .serving server) {order : List Nat}
    (horder : order.Perm p.service.entries) :
    ∃ q written, machine p (.interrupt order) = some (q, written) ∧ q.doing.isEnding = true := by
  simp only [machine, hdoing]
  exact exists_leave (h.of_serving hdoing).1 horder _ _

/-- A program that watches leaves when all its subscriptions are over. -/
theorem exists_allClosed (h : Reached listener base policy before p)
    (hdoing : p.doing = .serving none) (hover : p.service.entries.all p.service.isOver = true)
    {order : List Nat} (horder : order.Perm p.service.entries) :
    ∃ q written, machine p (.allClosed order) = some (q, written) ∧ q.doing.isEnding = true := by
  simp only [machine, hdoing, hover, if_true]
  exact exists_leave (h.of_serving hdoing).1 horder _ _

/-- What a program keeps to, after some moves. -/
structure Endures (moves : List Move) (p : Program) : Prop where
  /-- Accepting never comes to its end. -/
  serverReturned : ∀ order, machine p (.serverReturned order) = none
  /-- The outcome is success. -/
  outcome : ∀ outcome, p.doing = .leaving outcome ∨ p.doing = .returned outcome →
    outcome = .ok ()
  /-- A program that relays leaves only after an interrupt. -/
  interrupted : p.task = .relay → p.doing.isEnding = true →
    ∃ order, .interrupt order ∈ moves
  /-- Whatever the network answers, the program can come to serve by itself until it leaves. -/
  serves : p.doing.isEnding = false → ∀ network,
    ∃ later q written, (∀ move ∈ later, move.IsOwn network) ∧
      machine.run p later = some (q, written) ∧
      ((∃ server, q.doing = .serving server) ∨
        p.task ≠ .relay ∧ q.doing = .returned (.ok ()))
  /-- An interrupt ends the serving at any time. -/
  interrupt : ∀ server, p.doing = .serving server → ∀ order, order.Perm p.service.entries →
    ∃ q written, machine p (.interrupt order) = some (q, written) ∧ q.doing.isEnding = true
  /-- Whatever happens to a program that leaves, it leaves, and it can return by itself. -/
  returns : p.doing.isEnding = true → ∀ later q written,
    machine.run p later = some (q, written) → q.doing.isEnding = true ∧
      ∃ (own : List Feed.Service.Move) (r : Program) (seen : List Written),
        (∀ move ∈ own, move.isOwn = true) ∧
        machine.run q (own.map .service) = some (r, seen) ∧ r.doing = .returned (.ok ())
  /-- A program that has returned has torn down all subscriptions. -/
  tornDown : ∀ outcome, p.doing = .returned outcome → p.service.entries = [] ∧
    ∀ n f, p.service.follower? n = some f → f.isOver = true

theorem endures_of_run (h : machine.run (start listener base policy topics) moves =
    some (p, written)) : p.Endures moves := by
  have hp : Reached listener base policy moves p :=
    (reached_start listener base policy topics).run h
  have hfits := hp.fits
  have hlistener := hp.listener_eq
  generalize hdoing : p.doing = doing at hfits
  refine ⟨fun order => ?_, ?_, ?_, fun hending network => ?_, fun server hserving order horder =>
    exists_interrupt hp hserving horder, fun hending later q more hlater => ?_, ?_⟩
  · simp only [machine, hdoing]
    cases hfits with
    | @serving server _ _ _ hwaits =>
      cases server with
      | none => rfl
      | some server => exact if_neg (ne_true_of_eq_false (hwaits server rfl).hasReturned_eq_false)
    | _ => rfl
  · rw [hdoing]
    rintro outcome (rfl | rfl) <;> cases hfits <;> rfl
  · rw [hdoing, task, hlistener, taskOf_eq_relay]
    intro hrelay hending
    obtain ⟨move, hmem, hinterrupt⟩ : ∃ move ∈ moves, move.isInterrupt = true := by
      cases hfits with
      | leaving _ _ hwhy => exact hwhy hrelay
      | returned _ _ hwhy => exact hwhy hrelay
      | _ => cases hending
    cases move with
    | interrupt order => exact ⟨order, hmem⟩
    | _ => cases hinterrupt
  · obtain ⟨later, q, more, hown, hlater, hserves | ⟨rfl, hreturned⟩⟩ :=
      exists_serving hp hending network
    · exact ⟨later, q, more, hown, hlater, .inl hserves⟩
    · refine ⟨later, q, more, hown, hlater, .inr ⟨?_, hreturned⟩⟩
      rw [task, hlistener]
      nofun
  · have hq := isEnding_of_run hending hlater
    exact ⟨hq, exists_returned (hp.run hlater) hq⟩
  · rw [hdoing]
    rintro outcome rfl
    cases hfits with
    | returned hidle hentries =>
      exact ⟨hentries, fun n f hf => hp.orderly.isOver_of_notMem hidle hf (by simp [hentries])⟩

end Program

end FeedRelay.CommandLine
