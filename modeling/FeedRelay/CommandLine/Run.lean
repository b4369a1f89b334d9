import FeedRelay.CommandLine.Command
import FeedRelay.CommandLine.EnvironmentFile
import FeedRelay.Console
import FeedRelay.Feed.Clock
import FeedRelay.Feed.Handler
import FeedRelay.Log.Filter
import FeedRelay.Relay.Acceptor
import FeedRelay.Settings.Load

/-!
# A run of the program

The program reads its words, then a file of variables, then its settings, and fails if it cannot.
To relay is to listen for clients and to subscribe to the topics of the settings, until an
interrupt comes. To watch is to subscribe to some topics and to show their events, until all of
them have closed or an interrupt comes.
-/

namespace FeedRelay.CommandLine

/-- What the program finds when it is started. -/
structure Surroundings where
  words : List String
  environment : List Settings.Variable
  files : List Settings.File
  connect : Feed.Connect
  listen : String → Except Network.Fault Address.Socket

/-- What the program writes: to the log, or for a person to read. -/
inductive Written where
  | log (line : Log.Line)
  | shown (line : Console.Line)
  deriving DecidableEq, Repr

/-- What the program is there for. -/
inductive Task where
  | relay
  | watch
  deriving DecidableEq, Repr

/-- A run: its task, what of the log is written, its followers, and the exit code when it is
over. -/
structure Run where
  task : Task
  filter : Log.Filter
  clock : Feed.Clock
  exit : Option Nat
  deriving Repr

/-- A run that has begun, or the exit code and the log of one that fails at once. -/
inductive Begun where
  | failed (code : Nat) (log : List Log.Line)
  | running (run : Run)
  deriving Repr

/-- The name of the file of variables. -/
def variablesFile : String := ".env"

/-- The name of the variable with the filter of the log. -/
def filterVariable : String := "RUST_LOG"

/-- The variables of the environment, with those of the file. -/
def Surroundings.allVariables (s : Surroundings) : List Settings.Variable :=
  match Settings.findFile? s.files variablesFile with
  | some file => EnvironmentFile.apply s.environment file.bytes
  | none => s.environment

/-- The filter of the log for a level of the settings. -/
def filterFor (environment : List Settings.Variable) (level : String) : Log.Filter :=
  let given := EnvironmentFile.lookup? environment filterVariable.toList
  .choose (given.map String.ofList) level

namespace Run

/-- Subscribe to a topic of a run that relays. -/
def relayTopic (network : Feed.Connect) (c : Feed.Clock) (topic : Topic) : Feed.Clock :=
  match c.subscribe network topic with
  | (.ok state, c) =>
    c.log (Log.info .program ("Relaying " ++ topic.displayKey ++ " (" ++ state.label ++ ")"))
  | (.error failure, c) =>
    c.log (Log.warn .program
      ("Could not subscribe to " ++ topic.displayKey ++ ": " ++ failure.message))

/-- Subscribe to a topic of a run that watches. -/
def watchTopic (network : Feed.Connect) (c : Feed.Clock) (topic : Topic) : Feed.Clock :=
  match c.subscribe network topic with
  | (.ok _, c) => c
  | (.error failure, c) =>
    c.log (Log.warn .program
      ("Could not subscribe to " ++ topic.displayKey ++ ": " ++ failure.message))

/-- The clock of a run before it subscribes to anything. -/
def freshClock (settings : Settings) (base : Url) : Feed.Clock :=
  .start (.empty base settings.reconnect.policy)

/-- Begin to relay. -/
def beginRelay (s : Surroundings) (settings : Settings) : Except Failure Feed.Clock := do
  let base ← settings.baseUrl
  let topics ← Settings.toTopics settings.topics
  let address := settings.server.address
  let socket ← (s.listen address).mapError (.listen address)
  let c := topics.foldl (relayTopic s.connect) (freshClock settings base)
  return (Acceptor.start (some socket)).log.foldl .log c

/-- Begin to watch. -/
def beginWatch (s : Surroundings) (settings : Settings) (url : Option String)
    (topics : List String) : Except Failure Feed.Clock := do
  let base ← match url with
    | some text => (Url.parse text).mapError .malformedAddress
    | none => settings.baseUrl
  let topics ← (topics.mapM Topic.parse).mapError .invalidTopic
  return topics.foldl (watchTopic s.connect) (freshClock settings base)

/-- The part of a log that is written. -/
def filtered (filter : Log.Filter) (log : List Log.Line) : List Log.Line :=
  log.filter fun line => filter.shows line.area.target line.level

/-- A run that fails with a line in its log. -/
def failing (filter : Log.Filter) (text : String) : Begun :=
  .failed 1 (filtered filter [Log.error .program text])

/-- The run of a command. A run that watches is over if there is nothing to watch. -/
def ofCommand (filter : Log.Filter) (command : Command) (c : Feed.Clock) : Run :=
  match command with
  | .relay => { task := .relay, filter, clock := c, exit := none }
  | .watch _ _ =>
    if c.roster.isEmpty then
      { task := .watch, filter, exit := some 0
        clock := c.log (Log.warn .program "No topic could be subscribed.") }
    else { task := .watch, filter, clock := c, exit := none }

/-- Begin a run of a command with settings. -/
def beginWith (s : Surroundings) (filter : Log.Filter) (settings : Settings)
    (command : Command) : Begun :=
  let clock := match command with
    | .relay => beginRelay s settings
    | .watch url topics => beginWatch s settings url topics
  match clock with
  | .ok c => .running (ofCommand filter command c)
  | .error failure => failing filter ("subrelay failed: " ++ failure.message)

/-- Begin a run. -/
def begin (s : Surroundings) : Begun :=
  match Command.parse s.words with
  | .error refusal => .failed refusal.exitCode []
  | .ok command =>
    let environment := s.allVariables
    match Settings.load s.files environment with
    | .error fault =>
      failing (filterFor environment "info") ("Failed to load configuration: " ++ fault.message)
    | .ok settings => beginWith s (filterFor environment settings.logLevel) settings command

/-- End a run: after an interrupt, or because all that was watched has closed. -/
def finish (run : Run) (interrupted : Bool) : Run :=
  let text := if interrupted then "Shutdown signal received. Exiting gracefully."
    else "All subscriptions closed."
  { run with clock := (run.clock.log (Log.info .program text)).shutdown, exit := some 0 }

/-- Whether nothing is left to do. -/
def isDone (run : Run) : Bool :=
  run.task = .watch && run.clock.roster.isClosed

/-- Go on with a run until it is over or nobody waits. An interrupt comes when a condition on
the run holds. At most `fuel` delays are waited for. -/
def go (network : Feed.Connect) (interrupt : Run → Bool) : (fuel : Nat) → Run → Run
  | 0, run => run
  | fuel + 1, run =>
    if run.exit.isSome then run
    else if run.isDone then run.finish false
    else if interrupt run then run.finish true
    else
      match run.clock.tick network with
      | some clock => go network interrupt fuel { run with clock }
      | none => run

/-- What an action writes, with the endpoints of a run that relays. -/
def write (task : Task) (hub : Hub) : Feed.Action → Hub × List Written
  | .log line => (hub, [.log line])
  | .handle topic event =>
    match task with
    | .relay =>
      let (hub, log) := hub.handle topic event
      (hub, log.map .log)
    | .watch => (hub, [.shown (Console.lineOf topic event)])
  | _ => (hub, [])

/-- What a history writes, with its times. -/
def writeAll (task : Task) (hub : Hub) : List (Nat × Feed.Action) → List (Nat × Written)
  | [] => []
  | (time, action) :: rest =>
    let (hub, written) := write task hub action
    written.map (time, ·) ++ writeAll task hub rest

/-- What a run has written so far, with its times. -/
def output (run : Run) : List (Nat × Written) :=
  (writeAll run.task .empty run.clock.history).filter fun (_, written) =>
    match written with
    | .log line => run.filter.shows line.area.target line.level
    | .shown _ => true

end Run

end FeedRelay.CommandLine
