/-
  Small operations on texts: cutting into lines, joining, searching, writing numbers.

  A line ends at a line feed and nowhere else: a carriage return, a form feed or U+2028 is an
  ordinary (blank) character of its line.  Cutting and joining are inverse to each other, which
  is what keeps line numbers and offsets of a document in step.
-/
import ClassLift.Text.Blank

namespace ClassLift

/-- The lines of a text; there is always at least one, and a final line feed opens an empty one. -/
def lines (t : Text) : List Text := t.splitOn '\n'

/-- The parts with one separator between every two of them. -/
def joinWith (separator : Text) (parts : List Text) : Text := separator.intercalate parts

/-- Tokens written side by side with one space between them. -/
def joinSpaced (parts : List Text) : Text := joinWith [' '] parts

/-- Whether `needle` stands somewhere in the text. -/
def occursIn (needle : Text) : Text → Bool
  | [] => needle.isEmpty
  | c :: rest => needle.isPrefixOf (c :: rest) || occursIn needle rest

/-- The decimal digits of an integer, after a minus sign if it is negative. -/
def decimal (n : Int) : Text :=
  if n < 0 then '-' :: Nat.toDigits 10 n.natAbs else Nat.toDigits 10 n.natAbs

example : lines "a\n\nb\n".toList = ["a".toList, [], "b".toList, []] := by decide

example : occursIn "ell".toList "hello".toList ∧ ¬ occursIn "elo".toList "hello".toList := by decide

example : decimal (-120) = "-120".toList ∧ decimal 0 = "0".toList := by decide

end ClassLift
