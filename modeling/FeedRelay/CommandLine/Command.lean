/-!
# The words of a command

The relay is told what to do by the words behind its name: `relay`, or `watch` with topics and
perhaps the address of a service. Words that begin with a hyphen are options, up to a word of
two hyphens, which ends the options.
-/

namespace FeedRelay.CommandLine

/-- What the relay is told to do: relay the topics of the settings, or show some topics. -/
inductive Command where
  | relay
  | watch (url : Option String) (topics : List String)
  deriving DecidableEq, Repr

/-- Why there is nothing to do: help was asked for, or the words are no command. -/
inductive Refusal where
  | help
  | misuse
  deriving DecidableEq, Repr

/-- The exit code of a refusal. -/
def Refusal.exitCode : Refusal → Nat
  | .help => 0
  | .misuse => 2

namespace Command

/-- How the program is to be called. -/
def usage : String :=
  "Usage: subrelay <relay | watch [--url <URL>] [TOPICS]... | help>"

/-- The topics to show if none are given. -/
def usualTopics : List String :=
  ["measurement", "service", "measurement/2"]

/-- A word as it is read: the end of the options, a long option with a value if one is attached,
short options, or a plain word. -/
inductive Word where
  | endOfOptions
  | long (name : List Char) (value : Option (List Char))
  | short (letters : List Char)
  | plain
  deriving DecidableEq, Repr

/-- The name of a long option, and the value behind an equals sign. -/
def longOption (cs : List Char) : Word :=
  match cs.dropWhile (· ≠ '=') with
  | _ :: value => .long (cs.takeWhile (· ≠ '=')) (some value)
  | [] => .long cs none

/-- Read a word. A hyphen alone is a plain word. -/
def Word.ofChars : List Char → Word
  | ['-', '-'] => .endOfOptions
  | '-' :: '-' :: cs => longOption cs
  | ['-'] => .plain
  | '-' :: cs => .short cs
  | _ => .plain

/-- Read a word. -/
def Word.ofString (s : String) : Word :=
  .ofChars s.toList

/-- The refusal that an option leads to where no option but the one for help is known. -/
def refuse : Word → Refusal
  | .long name none => if name = "help".toList then .help else .misuse
  | .short ('h' :: _) => .help
  | _ => .misuse

/-- Read the words behind `relay`, which has only the option for help. -/
def readRelay : List String → Except Refusal Command
  | [] => .ok .relay
  | word :: rest =>
    match Word.ofString word, rest with
    | .endOfOptions, [] => .ok .relay
    | w, _ => .error (refuse w)

/-- The command to show topics, or the usual ones. -/
def watchAll (url : Option String) (topics : List String) : Command :=
  .watch url (if topics.isEmpty then usualTopics else topics)

/-- Read the words behind `watch`. The address may be given once, among the topics. -/
def readWatch (url : Option String) (topics : List String) : List String → Except Refusal Command
  | [] => .ok (watchAll url topics)
  | word :: rest =>
    match Word.ofString word with
    | .plain => readWatch url (topics ++ [word]) rest
    | .endOfOptions => .ok (watchAll url (topics ++ rest))
    | .long name value =>
      if name = "url".toList ∧ url.isNone then
        match value, rest with
        | some value, rest => readWatch (some (String.ofList value)) topics rest
        | none, value :: rest =>
          if Word.ofString value = .plain then readWatch (some value) topics rest
          else .error .misuse
        | none, [] => .error .misuse
      else .error (refuse (.long name value))
    | .short letters => .error (refuse (.short letters))

/-- Whether words name something that there is help for: a command, or nothing. -/
def isHelpTopic (words : List String) : Bool :=
  words ∈ [[], ["relay"], ["watch"], ["help"]]

/-- Read the words of a command. -/
def parse : List String → Except Refusal Command
  | [] => .error .misuse
  | "relay" :: rest => readRelay rest
  | "watch" :: rest => readWatch none [] rest
  | "help" :: rest => .error (if isHelpTopic rest then .help else .misuse)
  | word :: _ => .error (refuse (.ofString word))

end Command

end FeedRelay.CommandLine
