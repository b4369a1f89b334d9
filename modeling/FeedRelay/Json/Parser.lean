import FeedRelay.Json.Number
import FeedRelay.Text.Hex

/-!
# Reading JSON

A reader for each kind of JSON value, and `parse`, which reads a whole text. Arrays and
objects may be nested up to a limit, and the recursion is on what remains of it.
-/

namespace FeedRelay.Json

/-- The blanks between the parts of a JSON text. -/
def isBlank (c : Char) : Bool :=
  c = ' ' || c = '\n' || c = '\t' || c = '\r'

/-- Skip the blanks at the beginning of a text. -/
def skipBlanks (text : List Char) : List Char :=
  text.dropWhile isBlank

/-- The character of an escape of one letter. -/
def shortEscape? : Char → Option Char
  | '"' => some '"'
  | '\\' => some '\\'
  | '/' => some '/'
  | 'b' => some '\x08'
  | 'f' => some '\x0c'
  | 'n' => some '\n'
  | 'r' => some '\r'
  | 't' => some '\t'
  | _ => none

/-- The number of four hexadecimal digits. -/
def fourDigits? (a b c d : Char) : Option Nat := do
  let a ← Text.Hex.value? a
  let b ← Text.Hex.value? b
  let c ← Text.Hex.value? c
  let d ← Text.Hex.value? d
  return ((a * 16 + b) * 16 + c) * 16 + d

/-- The fault of a text that does not go on with four hexadecimal digits: four bytes are read
before it is found. -/
def hexFault (text : List Char) : Fault :=
  if 4 ≤ Text.Utf8.size text then ⟨.invalidEscape, Text.Utf8.size text - 4⟩
  else ⟨.endOfString, 0⟩

/-- Four hexadecimal digits. -/
def hexUnit (text : List Char) : Except Fault (Nat × List Char) :=
  match text with
  | a :: b :: c :: d :: rest =>
    match fourDigits? a b c d with
    | some n => .ok (n, rest)
    | none => .error (hexFault text)
  | _ => .error (hexFault text)

/-- Whether a unit is the second half of a surrogate pair. -/
def isLowSurrogate (n : Nat) : Bool :=
  0xDC00 ≤ n && n ≤ 0xDFFF

/-- Whether a unit is the first half of a surrogate pair. -/
def isHighSurrogate (n : Nat) : Bool :=
  0xD800 ≤ n && n ≤ 0xDBFF

/-- The second half of a surrogate pair, escaped as well. -/
def secondUnit (high : Nat) : Reader Char
  | [] => .error (.before .endOfString [])
  | '\\' :: [] => .error (.before .endOfString [])
  | '\\' :: 'u' :: rest => do
    let (low, rest) ← hexUnit rest
    if isLowSurrogate low then
      return (Char.ofNat (0x10000 + (high - 0xD800) * 0x400 + (low - 0xDC00)), rest)
    else throw (.before .loneSurrogate rest)
  | '\\' :: rest => .error (.at .unfinishedSurrogatePair rest)
  | rest => .error (.at .unfinishedSurrogatePair rest)

/-- The character of an escape whose backslash is read. -/
def escape : Reader Char
  | [] => .error (.before .endOfString [])
  | 'u' :: rest => do
    let (n, rest) ← hexUnit rest
    if isLowSurrogate n then throw (.before .loneSurrogate rest)
    else if isHighSurrogate n then secondUnit n rest
    else return (Char.ofNat n, rest)
  | c :: rest =>
    match shortEscape? c with
    | some c => .ok (c, rest)
    | none => .error (.at .invalidEscape (c :: rest))

theorem length_hexUnit {text : List Char} {n : Nat} {rest : List Char}
    (h : hexUnit text = .ok (n, rest)) : rest.length < text.length := by
  unfold hexUnit at h
  split at h
  · split at h
    · simp only [Except.ok.injEq, Prod.mk.injEq] at h
      simp only [← h.2, List.length_cons]
      omega
    · simp at h
  · simp at h

theorem length_secondUnit {high : Nat} {text : List Char} {c : Char} {rest : List Char}
    (h : secondUnit high text = .ok (c, rest)) : rest.length < text.length := by
  unfold secondUnit at h
  split at h
  · simp at h
  · simp at h
  · rename_i tail
    cases hu : hexUnit tail with
    | error e => simp [hu, bind, Except.bind] at h
    | ok r =>
      have := @length_hexUnit tail r.1 r.2 hu
      simp only [hu, bind, Except.bind] at h
      split at h
      · simp only [pure, Except.pure, Except.ok.injEq, Prod.mk.injEq] at h
        simp only [← h.2, List.length_cons]
        omega
      · simp [throw, throwThe, MonadExceptOf.throw] at h
  · simp at h
  · simp at h

theorem length_escape {text : List Char} {c : Char} {rest : List Char}
    (h : escape text = .ok (c, rest)) : rest.length < text.length := by
  unfold escape at h
  split at h
  · simp at h
  · rename_i tail
    cases hu : hexUnit tail with
    | error e => simp [hu, bind, Except.bind] at h
    | ok r =>
      have hr := @length_hexUnit tail r.1 r.2 hu
      simp only [hu, bind, Except.bind] at h
      split at h
      · simp [throw, throwThe, MonadExceptOf.throw] at h
      · split at h
        · have := length_secondUnit h
          simp only [List.length_cons]
          omega
        · simp only [pure, Except.pure, Except.ok.injEq, Prod.mk.injEq] at h
          simp only [← h.2, List.length_cons]
          omega
  · split at h
    · simp only [Except.ok.injEq, Prod.mk.injEq] at h
      simp [← h.2]
    · simp at h

/-- The characters of a string whose opening quote is read, up to its closing one. -/
def stringBody : List Char → Except Fault (List Char × List Char)
  | [] => .error (.before .endOfString [])
  | c :: rest =>
    if c = '"' then .ok ([], rest)
    else if c = '\\' then
      match h : escape rest with
      | .ok (c, after) =>
        have := length_escape h
        (stringBody after).map fun (cs, rest) => (c :: cs, rest)
      | .error fault => .error fault
    else if c.toNat < 0x20 then .error (.before .controlCharacter rest)
    else (stringBody rest).map fun (cs, rest) => (c :: cs, rest)
termination_by text => text.length

/-- A string whose opening quote is read. -/
def string : Reader String :=
  fun text => (stringBody text).map fun (cs, rest) => (String.ofList cs, rest)

/-- The rest of a word whose first letter is read. -/
def word (value : Value) : List Char → Reader Value
  | [], rest => .ok (value, rest)
  | _ :: _, [] => .error (.before .endOfValue [])
  | expected :: more, c :: rest =>
    if c = expected then word value more rest else .error (.at .expectedIdent (c :: rest))

/-- What follows an item of an array: further items, each behind a comma. Each round reads
at least the comma, so `fuel` need not exceed the length of the text. -/
def moreItems (item : Reader Value) : (fuel : Nat) → Reader (List Value)
  | 0, text => .error (.at .endOfList text)
  | fuel + 1, text =>
    match skipBlanks text with
    | [] => .error (.at .endOfList [])
    | ']' :: rest => .ok ([], rest)
    | ',' :: rest =>
      match skipBlanks rest with
      | [] => .error (.at .endOfValue [])
      | ']' :: rest => .error (.at .trailingComma (']' :: rest))
      | rest => do
        let (value, rest) ← item rest
        let (values, rest) ← moreItems item fuel rest
        return (value :: values, rest)
    | rest => .error (.at .expectedListCommaOrEnd rest)

/-- The items of an array whose opening bracket is read. -/
def items (item : Reader Value) : Reader (List Value) :=
  fun text =>
    match skipBlanks text with
    | [] => .error (.at .endOfList [])
    | ']' :: rest => .ok ([], rest)
    | rest => do
      let (value, rest) ← item rest
      let (values, rest) ← moreItems item (rest.length + 1) rest
      return (value :: values, rest)

/-- A member of an object, from behind the opening quote of its key. -/
def member (item : Reader Value) : Reader (String × Value) :=
  fun text => do
    let (key, rest) ← string text
    match skipBlanks rest with
    | [] => throw (.at .endOfObject [])
    | ':' :: rest => do
      let (value, rest) ← item rest
      return ((key, value), rest)
    | rest => throw (.at .expectedColon rest)

/-- What follows a member of an object: further members, each behind a comma. Each round
reads at least the comma, so `fuel` need not exceed the length of the text. -/
def moreMembers (item : Reader Value) : (fuel : Nat) → Reader (List (String × Value))
  | 0, text => .error (.at .endOfObject text)
  | fuel + 1, text =>
    match skipBlanks text with
    | [] => .error (.at .endOfObject [])
    | '\x7d' :: rest => .ok ([], rest)
    | ',' :: rest =>
      match skipBlanks rest with
      | [] => .error (.at .endOfValue [])
      | '\x7d' :: rest => .error (.at .trailingComma ('\x7d' :: rest))
      | '"' :: rest => do
        let (first, rest) ← member item rest
        let (others, rest) ← moreMembers item fuel rest
        return (first :: others, rest)
      | rest => .error (.at .keyNotString rest)
    | rest => .error (.at .expectedObjectCommaOrEnd rest)

/-- The members of an object whose opening brace is read. -/
def members (item : Reader Value) : Reader (List (String × Value)) :=
  fun text =>
    match skipBlanks text with
    | [] => .error (.at .endOfObject [])
    | '\x7d' :: rest => .ok ([], rest)
    | '"' :: rest => do
      let (first, rest) ← member item rest
      let (others, rest) ← moreMembers item (rest.length + 1) rest
      return (first :: others, rest)
    | rest => .error (.at .keyNotString rest)

/-- A value that is no array and no object. -/
def scalar : Reader Value
  | [] => .error (.at .endOfValue [])
  | 'n' :: rest => word .null ['u', 'l', 'l'] rest
  | 't' :: rest => word (.bool true) ['r', 'u', 'e'] rest
  | 'f' :: rest => word (.bool false) ['a', 'l', 's', 'e'] rest
  | '-' :: rest => Number.read true rest
  | '"' :: rest => (string rest).map fun (s, rest) => (.string s, rest)
  | c :: rest =>
    if c.isDigit then Number.read false (c :: rest) else .error (.at .expectedValue (c :: rest))

/-- A value with at most `depth` arrays and objects inside one another. -/
def value : (depth : Nat) → Reader Value
  | 0, text =>
    match skipBlanks text with
    | '[' :: rest => .error (.at .nestedTooDeeply ('[' :: rest))
    | '\x7b' :: rest => .error (.at .nestedTooDeeply ('\x7b' :: rest))
    | rest => scalar rest
  | depth + 1, text =>
    match skipBlanks text with
    | '[' :: rest => (items (value depth) rest).map fun (values, rest) => (.array values, rest)
    | '\x7b' :: rest =>
      (members (value depth) rest).map fun (found, rest) => (.object (Members.ofList found), rest)
    | rest => scalar rest

/-- How many arrays and objects may be inside one another. -/
def depthLimit : Nat := 127

/-- The value of a whole text. -/
def parseChars (text : List Char) : Except Fault Value := do
  let (result, rest) ← value depthLimit text
  match skipBlanks rest with
  | [] => return result
  | rest => throw (.at .trailingCharacters rest)

/-- The value of a whole text. -/
def parse (text : String) : Except Fault Value :=
  parseChars text.toList

end FeedRelay.Json
