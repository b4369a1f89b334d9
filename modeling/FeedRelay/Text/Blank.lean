/-!
# Blank characters

The characters that Unicode counts as white space, and cutting them off both ends of a
text. A text that is trimmed neither starts nor ends with a blank, and trimming it again
changes nothing.
-/

namespace FeedRelay.Text

/-- The code points with the Unicode property White_Space, in increasing order. -/
def blankPoints : List Nat :=
  [0x09, 0x0A, 0x0B, 0x0C, 0x0D, 0x20, 0x85, 0xA0, 0x1680, 0x2000, 0x2001, 0x2002, 0x2003,
    0x2004, 0x2005, 0x2006, 0x2007, 0x2008, 0x2009, 0x200A, 0x2028, 0x2029, 0x202F, 0x205F,
    0x3000]

/-- Whether a character is white space. -/
def isBlank (c : Char) : Bool :=
  blankPoints.contains c.toNat

/-- Cut the blanks off the end of a text. -/
def trimRight (cs : List Char) : List Char :=
  (cs.reverse.dropWhile isBlank).reverse

/-- Cut the blanks off both ends of a list of characters. -/
def trimChars (cs : List Char) : List Char :=
  trimRight (cs.dropWhile isBlank)

/-- Cut the blanks off both ends of a text. -/
def trim (s : String) : String :=
  String.ofList (trimChars s.toList)

/-- A character that the core library calls white space is blank. -/
theorem isBlank_of_isWhitespace {c : Char} (h : c.isWhitespace = true) : isBlank c = true := by
  simp only [Char.isWhitespace, Bool.or_eq_true, decide_eq_true_eq] at h
  rcases h with ((rfl | rfl) | rfl) | rfl <;> decide

theorem isBlank_of_head?_dropWhile {cs : List Char} {c : Char}
    (h : (cs.dropWhile isBlank).head? = some c) : isBlank c = false := by
  have hnot := List.head?_dropWhile_not isBlank cs
  rw [h] at hnot
  exact hnot

/-- A text that is trimmed does not end with a blank. -/
theorem isBlank_of_getLast?_trimChars {cs : List Char} {c : Char}
    (h : (trimChars cs).getLast? = some c) : isBlank c = false := by
  rw [trimChars, trimRight, List.getLast?_reverse] at h
  exact isBlank_of_head?_dropWhile h

/-- A text that is trimmed does not start with a blank. -/
theorem isBlank_of_head?_trimChars {cs : List Char} {c : Char}
    (h : (trimChars cs).head? = some c) : isBlank c = false := by
  rw [trimChars, trimRight, List.head?_reverse] at h
  -- What is left when the end is cut off has the same beginning.
  obtain ⟨cut, hcut⟩ := List.dropWhile_suffix isBlank (l := (cs.dropWhile isBlank).reverse)
  have hhead : (cs.dropWhile isBlank).head? = some c := by
    rw [← List.getLast?_reverse, ← hcut, List.getLast?_append, h]
    rfl
  exact isBlank_of_head?_dropWhile hhead

end FeedRelay.Text
