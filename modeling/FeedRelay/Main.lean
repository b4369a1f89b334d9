import FeedRelay.CommandLine.Run

/-!
# The program

Runs the relay from the command line: gathers what a run starts from, lets the run go on in real
time, and prints what it writes. The program has no way to the network itself, so every address
answers as it does on a host whose interfaces are down.
-/

namespace FeedRelay.CommandLine

/-- The variable of a text with an equals sign. -/
def variableOf (bytes : List UInt8) : Settings.Variable where
  name := String.ofList (Text.Utf8.decodeLossy (bytes.takeWhile (· ≠ 0x3D)))
  value := (bytes.dropWhile (· ≠ 0x3D)).drop 1

/-- The texts between zero bytes. -/
def betweenZeros (bytes : List UInt8) : List (List UInt8) :=
  bytes.foldr (fun b parts =>
    if b = 0 then [] :: parts
    else
      match parts with
      | part :: rest => (b :: part) :: rest
      | [] => [[b]]) [[]]

/-- The bytes of a file, if it can be read. -/
def readFile? (name : String) : IO (Option Settings.File) :=
  try
    return some { name, bytes := (← IO.FS.readBinFile name).toList }
  catch _ => return none

/-- The names of the files that a run looks at. -/
def fileNames : List String :=
  [variablesFile, Settings.fileName, Settings.fileName ++ ".toml", Settings.fileName ++ ".json"]

/-- Gather what a run starts from. -/
def gather (words : List String) : IO Surroundings := do
  let files ← fileNames.filterMapM readFile?
  let environment := match ← readFile? "/proc/self/environ" with
    | some file => (betweenZeros file.bytes).filter (!·.isEmpty) |>.map variableOf
    | none => []
  return {
    words, environment, files
    connect := fun url => some (Network.isolatedConnect url)
    listen := Network.isolatedListen [] 49152 }

/-- Print what is written. -/
def print (written : Written) : IO Unit := do
  let output ← IO.getStdout
  match written with
  | .log line => output.putStrLn line.printed
  | .shown line => output.putStr line.render
  output.flush

/-- Print what a run has written since a number of lines were printed. -/
def printFrom (printed : Nat) (run : Run) : IO Nat := do
  let output := run.output
  (output.drop printed).forM fun (_, written) => print written
  return output.length

/-- Wait for a time in milliseconds. -/
partial def pause (milliseconds : Nat) : IO Unit := do
  let step := 1000000
  if milliseconds ≤ step then IO.sleep milliseconds.toUInt32
  else
    IO.sleep step.toUInt32
    pause (milliseconds - step)

/-- Let a run go on until it is over, and give its exit code. -/
partial def follow (connect : Feed.Connect) (printed : Nat) (run : Run) : IO UInt32 := do
  let run := if run.exit.isNone ∧ run.isDone then run.finish false else run
  let printed ← printFrom printed run
  match run.exit, run.clock.due with
  | some code, _ => return code.toUInt32
  | none, [] =>
    pause 1000000
    follow connect printed run
  | none, (time, _) :: _ =>
    pause (time - run.clock.now)
    follow connect printed (run.go connect (fun _ => false) 1)

end FeedRelay.CommandLine

open FeedRelay.CommandLine in
/-- Run the program with the words of its command. -/
def main (words : List String) : IO UInt32 := do
  let surroundings ← gather words
  match Run.begin surroundings with
  | .failed code log =>
    if log.isEmpty ∧ (Command.parse words).toOption.isNone then IO.eprintln Command.usage
    log.forM fun line => print (.log line)
    return code.toUInt32
  | .running run => follow surroundings.connect 0 run
