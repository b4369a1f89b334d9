import FeedRelay.Json.Parser
import FeedRelay.Settings.Decode
import FeedRelay.Settings.Environment
import FeedRelay.Toml.Reader

/-!
# Loading settings

Settings come from a file and from the environment, which is laid over the file. The layer of the
file may come from a file of any format (`ofLayers`). Two formats are read here, TOML and JSON, and
the name of a file says which one it has; of two files, only one is read. Files of other formats
(YAML, INI, RON, JSON5) are taken for missing.
-/

namespace FeedRelay.Settings

/-- A file: its name, relative to where the relay runs, and its bytes. -/
structure File where
  name : String
  bytes : List UInt8
  deriving DecidableEq, Repr

/-- The name of the settings file, without its ending. -/
def fileName : String := "config/default"

/-- The characters of a file: without a mark of their order, and with each broken run of bytes
replaced. -/
def File.text (file : File) : List Char :=
  match file.bytes with
  | 0xEF :: 0xBB :: 0xBF :: rest => Text.Utf8.decodeLossy rest
  | bytes => Text.Utf8.decodeLossy bytes

/-- The name of a file without steps that lead nowhere: empty ones, single dots, and steps that are
taken back by two dots. -/
def File.plainName (file : File) : String :=
  let steps := (Text.split '/' file.name.toList).foldl (fun done step =>
    if step = [] ∨ step = ['.'] then done
    else if step = ['.', '.'] then done.dropLast
    else done ++ [step]) []
  String.ofList (List.intercalate ['/'] steps)

/-- The file of a name. Of several ones, the last one counts. -/
def findFile? (files : List File) (name : String) : Option File :=
  files.reverse.find? (·.plainName = name)

/-- The layer of a TOML file. -/
def tomlLayer (file : File) : Except Fault Layer :=
  match Toml.parse? file.text with
  | some members => .ok (Node.ofTomlMembers (some file.plainName) members)
  | none => .error .malformedFile

/-- The layer of a JSON file, which has to hold an object. -/
def jsonLayer (file : File) : Except Fault Layer :=
  match Json.parseChars file.text with
  | .ok (.object members) => .ok (Node.ofJsonMembers (some file.plainName) members)
  | _ => .error .malformedFile

/-- The layer of the settings file, if it is a TOML or a JSON file. A file of its bare name hides the
others but has no format that could be read. -/
def fileLayer (files : List File) : Except Fault Layer :=
  match findFile? files fileName with
  | some _ => .ok []
  | none =>
    match findFile? files (fileName ++ ".toml"), findFile? files (fileName ++ ".json") with
    | some file, _ => tomlLayer file
    | none, some file => jsonLayer file
    | none, none => .ok []

/-- The settings of the layer of a file, of whatever format it was, and the environment. -/
def ofLayers (file : Layer) (environment : List Variable) : Except Fault Settings := do
  let upper ← Environment.layer environment
  let given ← (upper.onto (file.onto (.table none []))).toGiven
  return given.complete

/-- Load the settings from files and environment. -/
def load (files : List File) (environment : List Variable) : Except Fault Settings := do
  let file ← fileLayer files
  ofLayers file environment

end FeedRelay.Settings
