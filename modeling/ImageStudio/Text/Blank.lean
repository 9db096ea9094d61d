/-!
# Text · Blank: the Unicode white-space class and trimming

A prompt or a title counts as empty when nothing but blanks is left after trimming. Blank
here is the Unicode `White_Space` property: the ASCII controls from tab to carriage return,
the space, NEL, the no-break spaces, the Ogham mark, the typographic spaces U+2000 to
U+200A, the line and paragraph separators, the narrow no-break and mathematical spaces, and
the ideographic space. The zero-width space U+200B is not blank.

Core's `Char.isWhitespace` knows fewer of these, so the class is written out here.
-/

namespace ImageStudio.Text

/-- A character is blank when it has the Unicode `White_Space` property. -/
def isBlank (c : Char) : Bool :=
  let n := c.toNat
  (0x09 ≤ n && n ≤ 0x0D) || n == 0x20 || n == 0x85 || n == 0xA0 || n == 0x1680 ||
  (0x2000 ≤ n && n ≤ 0x200A) || n == 0x2028 || n == 0x2029 || n == 0x202F ||
  n == 0x205F || n == 0x3000

/-- Drops blanks from the front of a character list. -/
def dropBlanks (cs : List Char) : List Char := cs.dropWhile isBlank

/-- The characters of a text with blanks removed from both ends. -/
def trimChars (cs : List Char) : List Char :=
  (dropBlanks (dropBlanks cs).reverse).reverse

/-- A text with blanks removed from both ends. -/
def trim (s : String) : String := String.ofList (trimChars s.toList)

/-- A text is blank when trimming leaves nothing. -/
def isBlankText (s : String) : Bool := s.toList.all isBlank

/-- Every character that core counts as white space is blank here too. -/
theorem isBlank_of_isWhitespace (c : Char) (h : c.isWhitespace = true) : isBlank c = true := by
  simp only [Char.isWhitespace, Bool.or_eq_true, decide_eq_true_eq] at h
  simp only [isBlank, Bool.or_eq_true, Bool.and_eq_true, decide_eq_true_eq, beq_iff_eq]
  rcases h with ((h | h) | h) | h <;> simp [h, Char.toNat]

example : isBlank '　' = true ∧ isBlank '​' = false := by decide

end ImageStudio.Text
