/-
  Reading integers that somebody typed, and showing integers.

  1. **Digits** of every script count: the decimal digits come in runs of ten, zero first, and a
     run is held by its zero (as of Unicode 14).

  2. **Spaces** may surround the number: the blanks that are white space by the White_Space
     property, so not the information separators U+001C to U+001F.

  3. **Form**: an optional sign, then digits, in which single underscores may stand between two
     digits.  Leading zeros do no harm.  A number of more than 4300 digits is not read.

  4. **Showing** has the same bound: a number of more than 4300 digits has no numeral.  Whoever has to
     show one fails instead, whatever the text around it was to say.
-/
import ClassLift.Text.Lines

namespace ClassLift

/-! ## Digits -/

/-- The zeros of the runs of decimal digits outside ASCII. -/
def digitZeros : List Nat :=
  [
    0x660, 0x6F0, 0x7C0, 0x966, 0x9E6, 0xA66, 0xAE6, 0xB66, 0xBE6, 0xC66, 0xCE6, 0xD66, 0xDE6,
    0xE50, 0xED0, 0xF20, 0x1040, 0x1090, 0x17E0, 0x1810, 0x1946, 0x19D0, 0x1A80, 0x1A90, 0x1B50,
    0x1BB0, 0x1C40, 0x1C50, 0xA620, 0xA8D0, 0xA900, 0xA9D0, 0xA9F0, 0xAA50, 0xABF0, 0xFF10,
    0x104A0, 0x10D30, 0x11066, 0x110F0, 0x11136, 0x111D0, 0x112F0, 0x11450, 0x114D0, 0x11650,
    0x116C0, 0x11730, 0x118E0, 0x11950, 0x11C50, 0x11D50, 0x11DA0, 0x16A60, 0x16AC0, 0x16B50,
    0x1D7CE, 0x1D7D8, 0x1D7E2, 0x1D7EC, 0x1D7F6, 0x1E140, 0x1E2F0, 0x1E950, 0x1FBF0
  ]

/-- The value of a decimal digit of any script. -/
def digitValue? (c : Char) : Option Nat :=
  if c.toNat < 0x80 then (if c.isDigit then some (c.toNat - 48) else none)
  else (digitZeros.find? fun first => first ≤ c.toNat && c.toNat < first + 10).map (c.toNat - ·)

/-! ## Numbers -/

/-- A blank that may surround a number. -/
def isSpace (c : Char) : Bool := isBlank c && !(0x1C ≤ c.toNat && c.toNat ≤ 0x1F)

/-- The text without the spaces at its two ends. -/
def trimSpaces (t : Text) : Text :=
  ((t.dropWhile isSpace).reverse.dropWhile isSpace).reverse

/-- The values of digits with single underscores between them. -/
def underscoredDigits? (t : Text) : Option (List Nat) := do
  let groups := t.splitOn '_'
  if groups.any List.isEmpty then none else groups.flatten.mapM digitValue?

/-- The number that digit values spell. -/
def ofDigitValues (digits : List Nat) : Nat := digits.foldl (fun n d => n * 10 + d) 0

def numeralLimit : Nat := 4300

/-- The integer that a text spells. -/
def parseInteger? (t : Text) : Option Int := do
  let (sign, digits) : Int × Text := match trimSpaces t with
    | '-' :: rest => (-1, rest)
    | '+' :: rest => (1, rest)
    | rest => (1, rest)
  let values ← underscoredDigits? digits
  if numeralLimit < values.length then none else some (sign * ofDigitValues values)

example : parseInteger? " 1_000 ".toList = some 1000 ∧ parseInteger? "-07".toList = some (-7) ∧
    parseInteger? "1__0".toList = none ∧ parseInteger? "".toList = none ∧
    parseInteger? ['\u0662'] = some 2 := by decide

/-! ## Showing numbers -/

/-- A number that can be shown, because it has no more digits than a number may have. -/
def HasNumeral (n : Int) : Prop := n.natAbs < Nat.pow 10 numeralLimit

instance : DecidablePred HasNumeral := fun n =>
  inferInstanceAs (Decidable (n.natAbs < Nat.pow 10 numeralLimit))

/-- What is said instead of a text in which a number without a numeral would stand. -/
def noNumeralMessage : Text :=
  "Exceeds the limit (".toList ++ decimal numeralLimit ++ " digits) for integer string ".toList ++
    "conversion; use sys.set_int_max_str_digits() to increase the limit".toList

end ClassLift
