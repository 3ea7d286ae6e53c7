/-
  Quoted texts, as error messages show a path or an argument.

  A quoted text is written between single quotes, unless it holds a single quote and no double
  quote: then double quotes save the escape.  Inside, the backslash and the quote in use are
  escaped, the three common controls get their letters (`\n`, `\r`, `\t`), any other character that
  is not printable becomes `\x`, `\u` or `\U` with two, four or eight lower-case hexadecimal digits,
  whichever is the shortest that holds it, and everything else stands for itself.
-/
import ClassLift.Text.Printable

namespace ClassLift

/-- The hexadecimal digits of `n`, at least `width` of them. -/
def hexDigits (width n : Nat) : Text :=
  let digits := Nat.toDigits 16 n
  List.replicate (width - digits.length) '0' ++ digits

/-- One character inside the quotes. -/
def quotedChar (quote c : Char) : Text :=
  if c == quote || c == '\\' then ['\\', c]
  else if c == '\n' then ['\\', 'n']
  else if c == '\r' then ['\\', 'r']
  else if c == '\t' then ['\\', 't']
  else if isPrintable c then [c]
  else if c.toNat ≤ 0xFF then '\\' :: 'x' :: hexDigits 2 c.toNat
  else if c.toNat ≤ 0xFFFF then '\\' :: 'u' :: hexDigits 4 c.toNat
  else '\\' :: 'U' :: hexDigits 8 c.toNat

/-- Double quotes only where they avoid an escape. -/
def quoteFor (t : Text) : Char :=
  if t.contains '\x27' && !t.contains '"' then '"' else '\x27'

def quoted (t : Text) : Text :=
  let quote := quoteFor t
  quote :: t.flatMap (quotedChar quote) ++ [quote]

example : quoted "it's".toList = "\"it's\"".toList ∧ quoted "a\nb".toList = "'a\\nb'".toList := by
  decide

end ClassLift
