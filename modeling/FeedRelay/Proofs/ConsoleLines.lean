import FeedRelay.Console
import FeedRelay.Proofs.Topic.Grammar

/-!
# The lines on a console

A line on a console is an indent if it is status, the tag of its key if it has one, and its text.
Texts, and keys, may hold line ends: what the other side of a connection has sent is shown as it
came. A reader of the console sees *rows*, which are what stands between line ends. So a line comes
to one row more than it holds line ends, and only the first of them has the indent and the tag.

There is one row for each line exactly if no text and no key that is shown holds a line end
(`Line.IsPlain`).

## Main results

* `Output.rows_of_calls`: the rows of an output, and when there is one for each call.
* `Output.second_rows_of_two_calls`: rows without the tag and the indent of their lines.
-/

namespace FeedRelay

/-- A text in front, without the separator, becomes a part of the first part. -/
theorem Text.splitOn_append_of_not_mem {sep : Char} {front : List Char} (h : sep ∉ front)
    (cs : List Char) : (front ++ cs).splitOn sep = (cs.splitOn sep).modifyHead (front ++ ·) := by
  induction front with
  | nil => exact (congrFun List.modifyHead_id _).symm
  | cons c rest ih =>
    rw [List.mem_cons, not_or] at h
    rw [List.cons_append, List.splitOn_cons_eq_if_modifyHead,
      if_neg (by simpa using Ne.symm h.1), ih h.2, List.modifyHead_modifyHead]
    rfl

namespace Console

/-- A call of a presenter: an event of a topic is shown, or a line as it is given. -/
inductive Call where
  | event (topic : Topic) (event : Feed.Event)
  | direct (line : Line)

/-- The line that a call writes. -/
def Call.line : Call → Line
  | .event topic occurred => lineOf topic occurred
  | .direct line => line

namespace Line

/-- What a line says. -/
def text : Line → List Char
  | .status text _ | .content text _ => text.toList

/-- The key that a line is tagged with. -/
def key? : Line → Option (List Char)
  | .status _ key | .content _ key => key.map String.toList

/-- What stands before everything else: status is indented. -/
def indent : Line → List Char
  | .status _ _ => [' ', ' ', ' ', ' ']
  | .content _ _ => []

/-- The key in brackets. -/
def tag (line : Line) : List Char :=
  line.key?.elim [] fun key => '[' :: key ++ [']', ' ']

/-- A line without its end. -/
def body (line : Line) : List Char :=
  line.indent ++ line.tag ++ line.text

/-- The rows of a line. -/
def rows (line : Line) : List (List Char) :=
  line.body.splitOn '\n'

/-- Whether neither the text nor the key of a line holds a line end. -/
def IsPlain (line : Line) : Prop :=
  '\n' ∉ line.text ∧ ∀ key, line.key? = some key → '\n' ∉ key

/-- What is written of a line is its body and an end. -/
theorem toList_render (line : Line) : line.render.toList = line.body ++ ['\n'] := by
  cases line with
  | status text key => cases key <;> simp [render, tagged, body, indent, tag, key?, Line.text]
  | content text key => cases key <;> simp [render, tagged, body, indent, tag, key?, Line.text]

theorem not_mem_indent (line : Line) : '\n' ∉ line.indent := by
  cases line <;> simp [indent]

theorem not_mem_tag_iff (line : Line) :
    '\n' ∉ line.tag ↔ ∀ key, line.key? = some key → '\n' ∉ key := by
  unfold tag
  cases line.key? <;> simp

/-- A line is plain if its body holds no line end. -/
theorem isPlain_iff (line : Line) : line.IsPlain ↔ '\n' ∉ line.body := by
  rw [IsPlain, ← not_mem_tag_iff, body, List.mem_append, List.mem_append]
  simp only [not_or, line.not_mem_indent, not_false_eq_true, true_and]
  exact and_comm

/-- There is a row, and one more for each line end. -/
theorem length_rows (line : Line) : line.rows.length = line.body.count '\n' + 1 :=
  Text.length_splitOn '\n' line.body

/-- A plain line is one row. -/
theorem rows_of_isPlain {line : Line} (h : line.IsPlain) : line.rows = [line.body] :=
  List.splitOn_eq_singleton (line.isPlain_iff.mp h)

/-- The rows of a line are those of its text, of which the first has the indent and the tag in front
of it, unless the key holds line ends itself. -/
theorem rows_of_key {line : Line} (h : ∀ key, line.key? = some key → '\n' ∉ key) :
    line.rows = (line.text.splitOn '\n').modifyHead (line.indent ++ line.tag ++ ·) := by
  have hfront : '\n' ∉ line.indent ++ line.tag := by
    rw [List.mem_append, not_or]
    exact ⟨line.not_mem_indent, line.not_mem_tag_iff.mpr h⟩
  rw [rows, body]
  exact Text.splitOn_append_of_not_mem hfront line.text

end Line

/-! ### Events -/

/-- What the other side says in an event. -/
def saidIn : Feed.Event → List Char
  | .message message => message.payloadText.toList
  | .closed (.broken fault) => fault.toList
  | .opened | .closed _ => []

/-- The key of a topic holds no line end if its text holds none. -/
private theorem not_mem_displayKey_iff (topic : Topic) :
    '\n' ∉ topic.displayKey.toList ↔ '\n' ∉ topic.resourcePath.toList := by
  unfold Topic.displayKey Topic.resourcePath
  cases topic.instanceId <;> simp

/-- The line of an event is plain if neither its topic nor what is said in it holds a line end. -/
theorem isPlain_lineOf_iff (topic : Topic) (event : Feed.Event) :
    (lineOf topic event).IsPlain ↔ '\n' ∉ topic.resourcePath.toList ∧ '\n' ∉ saidIn event := by
  have hkey := not_mem_displayKey_iff topic
  cases event with
  | opened => simp [lineOf, Line.IsPlain, Line.text, Line.key?, saidIn, hkey]
  | message message =>
    simp [lineOf, Line.IsPlain, Line.text, Line.key?, saidIn, hkey, and_comm]
  | closed reason =>
    cases reason <;> simp [lineOf, Line.IsPlain, Line.text, Line.key?, saidIn]

/-! ### Outputs -/

namespace Output

/-- An output to which nothing was written. -/
def start : Output :=
  { written := "", failing := false }

/-- Make calls, one after the other. -/
def present (out : Output) (calls : List Call) : Output :=
  calls.foldl (fun out call => out.write call.line) out

variable {out : Output}

/-- A call appends its line. -/
theorem write_spec (h : out.failing = false) (line : Line) :
    (out.write line).written.toList = out.written.toList ++ (line.body ++ ['\n']) ∧
      (out.write line).failing = false := by
  rw [write, h, if_neg Bool.false_ne_true]
  exact ⟨by rw [String.toList_append, line.toList_render], rfl⟩

/-- Calls append their lines in order. -/
theorem present_spec (h : out.failing = false) (calls : List Call) :
    (out.present calls).written.toList =
      out.written.toList ++ calls.flatMap fun call => call.line.body ++ ['\n'] := by
  induction calls generalizing out with
  | nil => simp [present]
  | cons call rest ih =>
    obtain ⟨hwritten, hfailing⟩ := write_spec h call.line
    rw [present, List.foldl_cons, ← present, ih hfailing, hwritten, List.flatMap_cons,
      List.append_assoc]

/-- The rows of lines that are written one after the other; behind the last one there is nothing. -/
theorem splitOn_lines (calls : List Call) :
    (calls.flatMap fun call => call.line.body ++ ['\n']).splitOn '\n' =
      (calls.flatMap fun call => call.line.rows) ++ [[]] := by
  induction calls with
  | nil => rfl
  | cons call rest ih =>
    rw [List.flatMap_cons, List.append_assoc, List.singleton_append, List.splitOn_append_cons_self,
      ih, List.flatMap_cons, List.append_assoc]
    rfl

/-- Lines come to a row each, and to one more for each line end that they hold. -/
theorem length_rows_of_calls (calls : List Call) :
    (calls.flatMap fun call => call.line.rows).length =
      calls.length + (calls.map fun call => call.line.body.count '\n').sum := by
  induction calls with
  | nil => rfl
  | cons call rest ih =>
    rw [List.flatMap_cons, List.length_append, Line.length_rows, ih, List.map_cons, List.sum_cons,
      List.length_cons]
    omega

/-- Lines come to as many rows as there are lines only if all of them are plain. -/
theorem length_rows_eq_iff (calls : List Call) :
    (calls.flatMap fun call => call.line.rows).length = calls.length ↔
      ∀ call ∈ calls, call.line.IsPlain := by
  rw [length_rows_of_calls, Nat.add_eq_left, List.sum_eq_zero_iff, List.forall_mem_map]
  simp only [List.count_eq_zero, Line.isPlain_iff]

/-- The rows of an output are, call after call, the rows of the lines: those of the text, of which
the first has the indent and the tag in front of it. There are as many of them as calls, and each is
the line of its call, exactly if all lines are plain; the line of an event is if neither its topic
nor what is said in it holds a line end. -/
theorem rows_of_calls (calls : List Call) :
    (start.present calls).written.toList.splitOn '\n' =
        (calls.flatMap fun call => call.line.rows) ++ [[]] ∧
      (∀ call ∈ calls, (∀ key, call.line.key? = some key → '\n' ∉ key) →
        call.line.rows = (call.line.text.splitOn '\n').modifyHead
          (call.line.indent ++ call.line.tag ++ ·)) ∧
      (((start.present calls).written.toList.splitOn '\n').length = calls.length + 1 ↔
        ∀ call ∈ calls, call.line.IsPlain) ∧
      ((start.present calls).written.toList.splitOn '\n' =
          (calls.map fun call => call.line.body) ++ [[]] ↔
        ∀ call ∈ calls, call.line.IsPlain) ∧
      ∀ topic event, (Call.event topic event).line.IsPlain ↔
        '\n' ∉ topic.resourcePath.toList ∧ '\n' ∉ saidIn event := by
  have hrows : (start.present calls).written.toList.splitOn '\n' =
      (calls.flatMap fun call => call.line.rows) ++ [[]] := by
    rw [present_spec rfl calls]
    exact splitOn_lines calls
  have hcount : ((start.present calls).written.toList.splitOn '\n').length = calls.length + 1 ↔
      ∀ call ∈ calls, call.line.IsPlain := by
    rw [hrows, List.length_append, List.length_singleton, Nat.add_right_cancel_iff]
    exact length_rows_eq_iff calls
  refine ⟨hrows, fun call _ hkey => Line.rows_of_key hkey, hcount, ⟨fun h => ?_, fun h => ?_⟩,
    isPlain_lineOf_iff⟩
  · exact hcount.mp (by rw [h, List.length_append, List.length_map, List.length_singleton])
  · have hline : (calls.flatMap fun call => call.line.rows) =
        calls.flatMap fun call => [call.line.body] :=
      List.flatMap_congr fun call hcall => Line.rows_of_isPlain (h call hcall)
    rw [hrows, hline, List.map_eq_flatMap]

/-- A message and a fault of two rows each are two calls, but come to four rows. The second row of
the message has no tag, and that of the fault, which is status, no indent. -/
theorem second_rows_of_two_calls :
    ∃ topic message, Topic.ofParts "measurement" none = .ok topic ∧
      Message.ofFrame? topic.displayKey (.text "a\nb") = some message ∧
      (start.present [.event topic (.message message),
          .event topic (.closed (.broken "x\ny"))]).written.toList.splitOn '\n' =
        ["[measurement] a".toList, "b".toList,
          "    Connection to measurement closed: x".toList, "y".toList, []] := by
  refine ⟨⟨"measurement", none, none, []⟩, ⟨"measurement", .text "a\nb"⟩, rfl, rfl, ?_⟩
  decide +kernel

end Output

end Console

end FeedRelay
