/-
  Fields: reading typed values out of loosely typed ones.

  Settings and requests arrive as JSON values or as plain text.  Each field has a type, and a value
  is taken for that type where its meaning is plain:

  * a text only from a string;
  * an integer from an integer, a boolean, a number without fractional part, or a string that spells
    one;
  * a boolean from a boolean, from 0 or 1, or from one of twelve words in any case.

  Everything else is a fault, and the fault says what was wrong and what was given.  Faults of
  several fields are COLLECTED in the order of the fields: a later field is checked although an
  earlier one failed.
-/
import ClassLift.Json
import ClassLift.Binary64
import ClassLift.Text.Numeral

namespace ClassLift

/-! ## Faults -/

inductive FieldFault
  | missing
  | notRecord
  | notJson
  | notText
  /-- A string that holds half a surrogate pair. -/
  | brokenText
  | emptyText
  | notInteger
  | unreadableInteger
  | oversizedInteger
  | fractional
  | notFinite
  | notBoolean
  | unreadableBoolean
  | below (bound : Int)
  deriving DecidableEq, Repr

namespace FieldFault

/-- The code of a fault, for programs. -/
def code : FieldFault → Text
  | missing => "missing".toList
  | notRecord => "model_attributes_type".toList
  | notJson => "json_invalid".toList
  | notText => "string_type".toList
  | brokenText => "string_unicode".toList
  | emptyText => "string_too_short".toList
  | notInteger => "int_type".toList
  | unreadableInteger => "int_parsing".toList
  | oversizedInteger => "int_parsing_size".toList
  | fractional => "int_from_float".toList
  | notFinite => "finite_number".toList
  | notBoolean => "bool_type".toList
  | unreadableBoolean => "bool_parsing".toList
  | below _ => "greater_than_equal".toList

/-- A fault in words, for people. -/
def message : FieldFault → Text
  | missing => "Field required".toList
  | notRecord =>
    "Input should be a valid dictionary or object to extract fields from".toList
  | notJson => "JSON decode error".toList
  | notText => "Input should be a valid string".toList
  | brokenText =>
    "Input should be a valid string, unable to parse raw data as a unicode string".toList
  | emptyText => "String should have at least 1 character".toList
  | notInteger => "Input should be a valid integer".toList
  | unreadableInteger =>
    "Input should be a valid integer, unable to parse string as an integer".toList
  | oversizedInteger =>
    "Unable to parse input string as an integer, exceeded maximum size".toList
  | fractional => "Input should be a valid integer, got a number with a fractional part".toList
  | notFinite => "Input should be a finite number".toList
  | notBoolean => "Input should be a valid boolean".toList
  | unreadableBoolean => "Input should be a valid boolean, unable to interpret input".toList
  | below bound => "Input should be greater than or equal to ".toList ++ decimal bound

end FieldFault

/-! ## Reading one value -/

/-- A string, whole or not. -/
def readString : Json → Except FieldFault JsonString
  | .string content => .ok content
  | _ => .error .notText

/-- A text, which is what a whole string spells. -/
def readText (value : Json) : Except FieldFault Text :=
  match readString value with
  | .ok content => if content.whole then .ok content.text else .error .brokenText
  | .error fault => .error fault

def readNonemptyText (value : Json) : Except FieldFault Text :=
  match readText value with
  | .ok [] => .error .emptyText
  | result => result

/-- An integer in its plain form: perhaps a minus sign, then digits without a leading zero unless
    they are a single one.  A plain form that is too long is a fault of its own, whatever stands
    behind it. -/
def readPlainInteger (t : Text) : Except FieldFault Int :=
  let (sign, rest) : Int × Text := match t with
    | '-' :: rest => (-1, rest)
    | _ => (1, t)
  let digits := Json.wholeDigits rest
  if digits.isEmpty then .error .unreadableInteger
  else if numeralLimit < (t.length - rest.length) + digits.length then .error .oversizedInteger
  else if digits.length < rest.length then .error .unreadableInteger
  else .ok (sign * Json.digitsValue digits)

/-- The text without the zeros it starts with and the underscores among them.  The last of these
    stays where a fraction or nothing follows; what follows otherwise must be a digit or a minus
    sign, and a text that starts with anything else is refused. -/
def withoutLeadingZeros? (t : Text) : Option Text :=
  let isPadding := fun c => c == '0' || c == '_'
  match t with
  | '0' :: rest =>
    let last := (rest.takeWhile isPadding).getLastD '0'
    match rest.dropWhile isPadding with
    | [] => some [last]
    | c :: more =>
      if c == '.' then some (last :: c :: more)
      else if c == '-' || c.isDigit then some (c :: more)
      else none
  | c :: _ => if c.isDigit then some t else none
  | [] => none

/-- What stands before a point that only zeros follow, at least one. -/
def withoutZeroFraction (t : Text) : Text :=
  match t.dropWhile (· != '.') with
  | _ :: zeros =>
    if !zeros.isEmpty && zeros.all (· == '0') then t.takeWhile (· != '.') else t
  | [] => t

/-- The text without its underscores, if each of them stands alone between other characters. -/
def withoutUnderscores (t : Text) : Text :=
  let groups := t.splitOn '_'
  if groups.any List.isEmpty then t else groups.flatten

/-- The plain form that a looser form stands for: a plus sign, leading zeros (also behind a minus
    sign), a fraction of zeros and single underscores between digits are left out. -/
def tidyInteger? (t : Text) : Option Text := do
  let stripped ← match t with
    | '+' :: '-' :: _ => none
    | '+' :: rest => withoutLeadingZeros? rest
    | '-' :: rest => (withoutLeadingZeros? rest).map ('-' :: ·)
    | _ => withoutLeadingZeros? t
  return withoutUnderscores (withoutZeroFraction stripped)

/-- The integer that a string spells, spaces around it left aside.  A looser form is looked for only
    where the string is no plain form. -/
def readIntegerText (t : Text) : Except FieldFault Int :=
  let trimmed := trimSpaces t
  match readPlainInteger trimmed with
  | .error .unreadableInteger =>
    match tidyInteger? trimmed with
    | some plain => readPlainInteger plain
    | none => .error .unreadableInteger
  | result => result

example : (readIntegerText " +0__7.0 ".toList).toOption = some 7 ∧
    (readIntegerText "-0_1".toList).toOption = some (-1) ∧
    (readIntegerText "1_000".toList).toOption = some 1000 ∧
    (readIntegerText "00".toList).toOption = some 0 ∧
    (readIntegerText "9.".toList).toOption = none ∧
    (readIntegerText "1__0".toList).toOption = none := by decide

/-- The least natural number that a signed word of 64 bits does not hold. -/
def wordBound : Nat := Nat.pow 2 63

/-- An integer from a number with a fraction or an exponent. -/
def readIntegerDecimal (mantissa exponent : Int) : Except FieldFault Int :=
  match roundDecimal mantissa.natAbs exponent with
  | .overflow => .error .notFinite
  | .fractional => .error .fractional
  | .integer n =>
    if wordBound ≤ n then .error .oversizedInteger
    else .ok (if mantissa < 0 then -(n : Int) else n)

/-- Whether every number in a value is finite, once it is rounded. -/
def Json.isFinite (value : Json) : Bool :=
  value.everyScalar fun
    | .notFinite => false
    | .decimal mantissa exponent => roundDecimal mantissa.natAbs exponent != .overflow
    | _ => true

def readInteger : Json → Except FieldFault Int
  | .int n => .ok n
  | .bool b => .ok (if b then 1 else 0)
  | .decimal mantissa exponent => readIntegerDecimal mantissa exponent
  | .notFinite => .error .notFinite
  | .string content =>
    if content.whole then readIntegerText content.text else .error .brokenText
  | _ => .error .notInteger

/-- An integer that is not under a bound. -/
def readIntegerFrom (bound : Int) (value : Json) : Except FieldFault Int :=
  match readInteger value with
  | .ok n => if n < bound then .error (.below bound) else .ok n
  | .error fault => .error fault

/-- A boolean from a word, in any case. -/
def readBooleanText (t : Text) : Except FieldFault Bool :=
  let word := t.map Char.toLower
  if (["1", "t", "y", "on", "yes", "true"].map String.toList).contains word then .ok true
  else if (["0", "f", "n", "no", "off", "false"].map String.toList).contains word then .ok false
  else .error .unreadableBoolean

/-- A boolean from a number of 64 bits. -/
def readBooleanInteger (n : Int) : Except FieldFault Bool :=
  if n == 0 then .ok false
  else if n == 1 then .ok true
  else if -(wordBound : Int) ≤ n && n < wordBound then .error .unreadableBoolean
  else .error .notBoolean

def readBoolean : Json → Except FieldFault Bool
  | .bool b => .ok b
  | .string content =>
    if content.whole then readBooleanText content.text else .error .brokenText
  | .int n => readBooleanInteger n
  | .decimal mantissa exponent =>
    match readIntegerDecimal mantissa exponent with
    | .ok n => readBooleanInteger n
    | .error _ => .error .notBoolean
  | _ => .error .notBoolean

/-! ## Reading records -/

/-- Where a fault lies: a field, or a position in a text. -/
inductive FieldStep
  | name (field : Text)
  | position (index : Nat)
  deriving DecidableEq, Repr

/-- A fault, the way to the value that has it, and what was given: the value itself, or the record
    around it where there is no value. -/
structure FieldError where
  location : List FieldStep
  fault : FieldFault
  given : Json

/-- A value, or all the faults that were found. -/
inductive Checked (α : Type)
  | ok (value : α)
  | faulty (errors : List FieldError)

namespace Checked

/-- Applies a checked function, collecting the faults of both sides in order. -/
def apply {α β : Type} : Checked (α → β) → Checked α → Checked β
  | ok f, ok a => ok (f a)
  | ok _, faulty errors => faulty errors
  | faulty errors, ok _ => faulty errors
  | faulty first, faulty second => faulty (first ++ second)

/-- What was read from a given value, its faults placed at a location. -/
def placed {α : Type} (location : List FieldStep) (given : Json) : Except FieldFault α → Checked α
  | .ok a => ok a
  | .error fault => faulty [⟨location, fault, given⟩]

end Checked

end ClassLift
