/-
  Blank characters, and what it means to trim a text.

  Markup is read as a list of code points: every offset and every length in this library counts
  code points, so a text IS that list and no second unit is ever needed.

  A blank is any of the 29 white-space characters below.  They are the characters of the
  White_Space property of Unicode together with the four information separators U+001C to U+001F;
  the zero-width characters (U+200B, U+FEFF, U+2060) are NOT blank.  Class lists are cut at
  blanks, lines are trimmed of blanks, and the header of an attribute may hold blanks around its
  equals sign, all with this one set.
-/

namespace ClassLift

/-- A text is the list of its code points. -/
abbrev Text := List Char

/-- White space, the information separators U+001C to U+001F included. -/
def isBlank (c : Char) : Bool :=
  let n := c.toNat
  (0x09 ≤ n && n ≤ 0x0D) || (0x1C ≤ n && n ≤ 0x20) || n == 0x85 || n == 0xA0 || n == 0x1680 ||
    (0x2000 ≤ n && n ≤ 0x200A) || n == 0x2028 || n == 0x2029 || n == 0x202F || n == 0x205F ||
    n == 0x3000

example : isBlank '\n' ∧ isBlank ' ' ∧ isBlank '\u00a0' ∧ ¬ isBlank '\u200b' ∧ ¬ isBlank 'a' := by
  decide

/-! ## Trimming -/

/-- The text from its first character that is not blank on. -/
def stripLeft (t : Text) : Text := t.dropWhile isBlank

/-- The text up to its last character that is not blank. -/
def stripRight (t : Text) : Text := (t.reverse.dropWhile isBlank).reverse

/-- The text without the blanks at its two ends. -/
def strip (t : Text) : Text := stripRight (stripLeft t)

/-- How many blanks a text starts with: the whole length of a text of blanks only. -/
def leadingBlanks (t : Text) : Nat := (t.takeWhile isBlank).length

/-- What is trimmed off the front is the leading blanks and nothing else. -/
@[simp]
theorem takeWhile_append_stripLeft (t : Text) : t.takeWhile isBlank ++ stripLeft t = t :=
  List.takeWhile_append_dropWhile

example : strip " \t a b\n".toList = "a b".toList ∧ leadingBlanks " \t a b\n".toList = 3 := by
  decide

end ClassLift
