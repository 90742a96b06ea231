/-!
# Blank characters

`isBlank` holds of the white space of Unicode and of the four information separators. Patterns,
stripping and the environment format use this class. Around numbers only white space is skipped,
which is `isSpace`.
-/

namespace StackCompiler.Text

/-- White space, the line ends and the information separators included. -/
def isBlank (c : Char) : Bool :=
  let n := c.toNat
  (9 ≤ n && n ≤ 13) || (28 ≤ n && n ≤ 32) || n == 133 || n == 160 || n == 5760 ||
    (8192 ≤ n && n ≤ 8202) || n == 8232 || n == 8233 || n == 8239 || n == 8287 || n == 12288

/-- White space, the line ends included. -/
def isSpace (c : Char) : Bool := isBlank c && !(28 ≤ c.toNat && c.toNat ≤ 31)

theorem isBlank_of_isSpace {c : Char} (h : isSpace c = true) : isBlank c = true := by
  simp only [isSpace, Bool.and_eq_true] at h
  exact h.1

theorem isBlank_of_isWhitespace {c : Char} (h : c.isWhitespace = true) : isBlank c = true := by
  simp only [Char.isWhitespace, Bool.or_eq_true, decide_eq_true_eq] at h
  rcases h with ((rfl | rfl) | rfl) | rfl <;> decide

/-- The text without the characters of a class at its end. -/
def dropWhileEnd (p : Char → Bool) (cs : List Char) : List Char := (cs.reverse.dropWhile p).reverse

/-- The text without the blanks at its start. -/
def dropBlanks (cs : List Char) : List Char := cs.dropWhile isBlank

/-- The text without the blanks at its end. -/
def dropTrailingBlanks (cs : List Char) : List Char := dropWhileEnd isBlank cs

/-- The text without the blanks at either end. -/
def strip (cs : List Char) : List Char := dropTrailingBlanks (dropBlanks cs)

/-- The text without the white space at either end. -/
def trim (cs : List Char) : List Char := dropWhileEnd isSpace (cs.dropWhile isSpace)

end StackCompiler.Text
