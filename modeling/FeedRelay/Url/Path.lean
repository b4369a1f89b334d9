import FeedRelay.Text.Percent
import FeedRelay.Text.Split

/-!
# Paths of web addresses

A path is a list of segments, each written behind a slash, or one bare text where an address
has no hierarchy. Segments are kept percent-encoded. A segment of one dot stands for the place
it is in, and one of two dots for the place above, whether the dots are encoded or not.
-/

namespace FeedRelay.Url

/-- A segment of a path. -/
abbrev Segment := List Char

/-- The path of a web address. -/
inductive Path where
  | bare (text : List Char)
  | segments (list : List Segment)
  deriving DecidableEq, Repr

namespace Path

/-- The characters that vanish from an address. -/
def vanishes (c : Char) : Bool :=
  c = '\t' || c = '\n' || c = '\r'

/-- A text without the characters that vanish. -/
def visible (text : List Char) : List Char :=
  text.filter (!vanishes ·)

/-- The characters that stay as they are in a path. -/
def keep (c : Char) : Bool :=
  !Text.Percent.isControl c &&
    !([' ', '"', '#', '<', '>', '?', '\x60', '\x7b', '\x7d'].contains c)

/-- The characters that stay as they are in a segment that is appended on its own. -/
def keepInSegment (c : Char) : Bool :=
  keep c && !(['/', '%', '\\'].contains c)

/-- Whether a segment is a dot, encoded or not. -/
def isHere (s : Segment) : Bool :=
  s.map Char.toLower ∈ [['.'], ['%', '2', 'e']]

/-- Whether a segment is two dots, each encoded or not. -/
def isUp (s : Segment) : Bool :=
  s.map Char.toLower ∈
    [['.', '.'], ['.', '%', '2', 'e'], ['%', '2', 'e', '.'], ['%', '2', 'e', '%', '2', 'e']]

/-- Whether a segment names a drive: a letter and a colon or a bar. -/
def isDrive : Segment → Bool
  | [c, mark] => c.isAlpha && (mark = ':' || mark = '|')
  | _ => false

/-- The place above; a drive is never left. -/
def up (done : List Segment) : List Segment :=
  if done.getLast?.any isDrive then done else done.dropLast

/-- Go on from a place by one segment that more follow. -/
def enter (done : List Segment) (s : Segment) : List Segment :=
  if isUp s then up done else if isHere s then done else done ++ [s]

/-- Go on from a place by the last segment. A path that ends at a dot ends with an empty
segment. -/
def finish (done : List Segment) (s : Segment) : List Segment :=
  if isUp s then up done ++ [[]] else if isHere s then done ++ [[]] else done ++ [s]

/-- Go on from a place by a list of segments. -/
def follow (done : List Segment) : List Segment → List Segment
  | [] => done
  | [s] => finish done s
  | s :: rest => follow (enter done s) rest

/-- The drive of a segment in its usual spelling; any other segment is left alone. -/
def spellDrive (s : Segment) : Segment :=
  if isDrive s then s.take 1 ++ [':'] else s

/-- The segments of a text that is split at its slashes. -/
def ofParts (parts : List (List Char)) : List Segment :=
  follow [] (parts.map (Text.Percent.encode keep))

/-- A drive and what follows it in the same part, if characters that vanish stand between them. -/
def splitDrive? (part : List Char) : Option (Segment × List Char) :=
  match part.dropWhile vanishes with
  | c :: more =>
    match more.dropWhile vanishes with
    | ':' :: mark :: text =>
      if c.isAlpha && vanishes mark && !(visible text).isEmpty then some ([c, ':'], visible text)
      else none
    | _ => none
  | [] => none

/-- Go on from a place in a local path by the parts of a text, and say whether the path got a drive.
A drive is a segment of its own at the beginning of a path, behind which more segments follow; what
vanishing characters part from a drive is a segment as it is, even if it is a dot or two. -/
def followLocal (done : List Segment) (drive : Bool) : List (List Char) → List Segment × Bool
  | [] => (done, drive)
  | part :: rest =>
    match if done.isEmpty then splitDrive? part else none with
    | some (name, text) => followLocal [name, Text.Percent.encode keep text] drive rest
    | none =>
      let s := Text.Percent.encode keep (visible part)
      if rest.isEmpty then (finish done s, drive)
      else if done.isEmpty && isDrive s then followLocal [spellDrive s] true rest
      else followLocal (enter done s) drive rest

/-- The segments as a text, each behind a slash. -/
def renderSegments (list : List Segment) : List Char :=
  list.flatMap ('/' :: ·)

/-- The text of a path. -/
def render : Path → List Char
  | .bare text => text
  | .segments list => renderSegments list

/-- Drop one empty last segment, unless it is the only one. -/
def dropEmptyLast (list : List Segment) : List Segment :=
  if 1 < list.length ∧ list.getLast? = some [] then list.dropLast else list

/-- Append one segment, given as a text. What is literally a dot or two dots is left out; what
becomes one once its tabs and line ends have vanished is followed. A lone empty segment is
replaced. -/
def push (list : List Segment) (text : List Char) : List Segment :=
  if text = ['.'] ∨ text = ['.', '.'] then list
  else
    finish (if list = [[]] then [] else list)
      (Text.Percent.encode keepInSegment (visible text))

end Path

end FeedRelay.Url
