/-!
# Blank characters

The blank characters are those of the Unicode White_Space property: tab to carriage return,
space, next line, no-break space, the Ogham space mark, the spaces from en quad to hair space,
the line and paragraph separators, the narrow no-break space, the medium mathematical space and
the ideographic space. Trimming removes them from both ends of a text.

What is proved here:
* `isBlank_of_isWhitespace`: every character that core counts as whitespace is blank.
-/

namespace Invoicing

/-- Whether a character has the Unicode White_Space property. -/
def isBlank (c : Char) : Bool :=
  let n := c.toNat
  (9 ≤ n && n ≤ 13) || n = 32 || n = 133 || n = 160 || n = 5760 || (8192 ≤ n && n ≤ 8202) ||
    n = 8232 || n = 8233 || n = 8239 || n = 8287 || n = 12288

theorem isBlank_of_isWhitespace (c : Char) (h : c.isWhitespace = true) : isBlank c = true := by
  simp only [Char.isWhitespace, Bool.or_eq_true, decide_eq_true_eq] at h
  simp only [isBlank, Bool.or_eq_true, Bool.and_eq_true, decide_eq_true_eq]
  rcases h with ((h | h) | h) | h <;> subst h <;> decide

/-- Drops blanks from the front of a character list. -/
def dropBlanks (cs : List Char) : List Char := cs.dropWhile isBlank

/-- A text without blanks at either end. -/
def trimBlanks (s : String) : String :=
  String.ofList (dropBlanks (dropBlanks s.toList).reverse).reverse

end Invoicing
