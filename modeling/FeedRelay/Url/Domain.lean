import FeedRelay.Text.Composition
import FeedRelay.Text.Direction
import FeedRelay.Text.Folding
import FeedRelay.Text.Joining
import FeedRelay.Text.Shown
import FeedRelay.Text.Utf8
import FeedRelay.Url.Punycode

/-!
# Domain names

The ASCII form of a domain name: folded and composed, one label per dot, and a label with other
characters in Punycode behind the mark `xn--`. If a name is written from right to left in part,
each of its labels has to have one direction.
-/

namespace FeedRelay.Url.Domain

/-- The characters of ASCII that no domain name has. -/
def isForbidden (c : Char) : Bool :=
  c.toNat ≤ 0x20 || c.toNat = 0x7F || ['%', '#', '/', ':', '<', '>', '?', '@', '[', '\\', ']',
    '^', '|'].contains c

/-- The characters that a domain name drops. -/
def droppedRuns : List (Nat × Nat) :=
  [(0xAD, 0xAD), (0x34F, 0x34F), (0x115F, 0x1160), (0x17B4, 0x17B5), (0x180B, 0x180F),
    (0x200B, 0x200B), (0x2060, 0x2064), (0x206A, 0x206F), (0x3164, 0x3164), (0xFE00, 0xFE0F),
    (0xFEFF, 0xFEFF), (0xFFA0, 0xFFA0), (0x1BCA0, 0x1BCA3), (0x1D173, 0x1D17A), (0xE0100, 0xE01EF)]

/-- Whether a domain name drops a character. -/
def isDropped (c : Char) : Bool :=
  Text.inRuns c.toNat droppedRuns

/-- The characters beyond ASCII that no domain name has although they show. -/
def refusedRuns : List (Nat × Nat) :=
  [(0xA8, 0xA8), (0xAF, 0xAF), (0xB4, 0xB4), (0xB8, 0xB8), (0x2D8, 0x2DD), (0x37A, 0x37A),
    (0x384, 0x385), (0x1FBD, 0x1FBD), (0x1FBF, 0x1FC1), (0x1FCD, 0x1FCF), (0x1FDD, 0x1FDF),
    (0x1FED, 0x1FEE), (0x1FFD, 0x1FFE), (0x2017, 0x2017), (0x2024, 0x2026), (0x203E, 0x203E),
    (0x2047, 0x2049), (0x2100, 0x2101), (0x2105, 0x2106), (0x2488, 0x249B), (0x2A74, 0x2A74),
    (0x2FF0, 0x2FFF), (0x309B, 0x309C), (0x31EF, 0x31EF), (0x33C2, 0x33C2), (0x33C7, 0x33C7),
    (0x33D8, 0x33D8), (0xFC5E, 0xFC63), (0xFDFA, 0xFDFB), (0xFE12, 0xFE13), (0xFE16, 0xFE16),
    (0xFE19, 0xFE19), (0xFE30, 0xFE30), (0xFE47, 0xFE4C), (0xFE52, 0xFE52), (0xFE55, 0xFE56),
    (0xFE5F, 0xFE5F), (0xFE64, 0xFE65), (0xFE68, 0xFE68), (0xFE6A, 0xFE6B), (0xFE70, 0xFE70),
    (0xFE72, 0xFE72), (0xFE74, 0xFE74), (0xFE76, 0xFE76), (0xFE78, 0xFE78), (0xFE7A, 0xFE7A),
    (0xFE7C, 0xFE7C), (0xFE7E, 0xFE7E), (0xFF03, 0xFF03), (0xFF05, 0xFF05), (0xFF0F, 0xFF0F),
    (0xFF1A, 0xFF1A), (0xFF1C, 0xFF1C), (0xFF1E, 0xFF20), (0xFF3B, 0xFF3E), (0xFF5C, 0xFF5C),
    (0xFFE3, 0xFFE3), (0xFFFC, 0xFFFD), (0x1F100, 0x1F100)]

/-- The characters that domain names may have although quoted text does not show them yet: two
letters, an addition to cuneiform, and the Chisoi, the Jurchen and the small seal script. -/
def recentRuns : List (Nat × Nat) :=
  [(0x208F, 0x208F), (0x10EEA, 0x10EEA), (0x12550, 0x12686), (0x16D80, 0x16D9D),
    (0x16DA0, 0x16DA9), (0x18E00, 0x19191), (0x191A0, 0x191D2), (0x3D000, 0x3FC3F)]

/-- Whether a label may hold a character, once it is folded. -/
def isAllowed (c : Char) : Bool :=
  if c.toNat < 0x80 then !isForbidden c
  else
    c = Text.nonJoiner || c = Text.joiner ||
      ((Text.isShown c || Text.isMark c || Text.inRuns c.toNat recentRuns) &&
        Text.foldChar c == [c] && !isDropped c && !Text.inRuns c.toNat refusedRuns)

/-- Whether a label is fit to be encoded. -/
def isLabel (label : List Char) : Bool :=
  label.all isAllowed && !(label.head?.any Text.isMark) && Text.joinersFit [] label &&
    Text.composed label == label

/-- The mark of an encoded label. -/
def mark : List Char := ['x', 'n', '-', '-']

/-- A label as it is read, and its ASCII form. -/
structure Label where
  plain : List Char
  ascii : List Char

/-- The greatest number of characters of a label that is not ASCII alone. -/
def labelLimit : Nat := 1000

/-- The greatest length of what is behind the mark of an encoded label. -/
def encodedLimit : Nat := 2000

/-- The label of a folded text. -/
def Label.ofChars? (text : List Char) : Option Label :=
  if mark.isPrefixOf text then do
    let encoded := text.drop 4
    if encodedLimit < encoded.length ∨ encoded.getLast? = some '-' then none
    let plain ← Punycode.decode? encoded
    if isLabel plain && plain.any (0x80 ≤ ·.toNat) && plain.length ≤ labelLimit &&
        text.all (·.toNat < 0x80) then
      some { plain, ascii := text }
    else none
  else if !isLabel text then none
  else if text.all (·.toNat < 0x80) then some { plain := text, ascii := text }
  else if labelLimit < text.length then none
  else some { plain := text, ascii := mark ++ Punycode.encode text }

/-- Whether labels go together: if one turns to the right, each has one direction. -/
def fit (labels : List Label) : Bool :=
  !(labels.any fun l => Text.turnsRight l.plain) ||
    labels.all fun l => Text.hasOneDirection l.plain

/-- The ASCII form of a domain name, given as bytes. -/
def toAscii? (bytes : List UInt8) : Option (List Char) := do
  let cs ← Text.Utf8.decode? bytes
  let folded := Text.composed ((cs.filter (!isDropped ·)).flatMap Text.foldChar)
  let labels ← (Text.split '.' folded).mapM Label.ofChars?
  if fit labels then some (List.intercalate ['.'] (labels.map (·.ascii))) else none

end FeedRelay.Url.Domain
