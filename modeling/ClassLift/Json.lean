/-
  JSON values and how they are read.

  1. **Values.**  Members of an object keep their order and their repetitions; the LAST member of a
     name is the one that counts.  An integer is a number without fraction and exponent, of any
     size; any other number is kept as the decimal it was written as, mantissa and exponent.  A
     string may spell half a surrogate pair, which is no character: a private character stands for
     it, and the string keeps a list of its halves.

  2. **Reading.**  The reader follows the grammar and stops at the first character that does not
     fit.  Its answer names that position, counted in code points from zero: an unclosed string is
     faulted at its opening quote, a bad escape at its backslash (a bad `\u` at the `u`),
     everything else where the next token should have started.  The names NaN, Infinity and
     -Infinity are read.  Brackets are followed only so deep; what is nested deeper is not read.

  3. **Termination.**  A step takes at least one character before the reader is entered again at the
     same or a deeper level, so two units of fuel for each character are never used up.
-/
import ClassLift.Text.Numeral

namespace ClassLift

/-- What a string spells.  A half of a surrogate pair that stands alone is no character: in the text a
    private character stands for it (`halfMark`), which is no blank, letter or digit either. -/
structure JsonString where
  text : Text
  /-- The halves that stand alone, in their order. -/
  halves : List Nat
  deriving DecidableEq, Repr

/-- What stands for half a surrogate pair: for each half another character of the last private
    block. -/
def halfMark (half : Nat) : Char := Char.ofNat (half + 0x102000)

namespace JsonString

/-- A string that is nothing but a text. -/
def ofText (t : Text) : JsonString := ⟨t, []⟩

/-- Whether a string spells a text. -/
def whole (s : JsonString) : Bool := s.halves.isEmpty

/-- The half that a character of the string stands for. -/
def half? (s : JsonString) (c : Char) : Option Nat := s.halves.find? fun half => halfMark half == c

/-- The string for a text that was made from the string. -/
def made (s : JsonString) (t : Text) : JsonString := ⟨t, t.filterMap s.half?⟩

end JsonString

inductive Json
  | null
  | bool (b : Bool)
  | int (n : Int)
  /-- The number `mantissa * 10 ^ exponent`, written with a fraction or an exponent. -/
  | decimal (mantissa : Int) (exponent : Int)
  | notFinite
  | string (content : JsonString)
  | array (items : List Json)
  | object (members : List (JsonString × Json))

namespace Json

/-- The value of the last member of a name. -/
def member? (name : Text) (members : List (JsonString × Json)) : Option Json :=
  (members.reverse.find? fun m => m.1 == JsonString.ofText name).map Prod.snd

mutual

/-- Whether every scalar in a value passes a test, the names of members included.  Of the members
    with one name only the last is looked at. -/
def everyScalar (test : Json → Bool) : Json → Bool
  | .array items => everyItem test items
  | .object members => everyMember test members
  | scalar => test scalar

def everyItem (test : Json → Bool) : List Json → Bool
  | [] => true
  | item :: rest => everyScalar test item && everyItem test rest

/-- Whether every scalar in the members that count passes a test. -/
def everyMember (test : Json → Bool) : List (JsonString × Json) → Bool
  | [] => true
  | (name, value) :: rest =>
    (rest.any (fun m => m.1 == name) || (test (.string name) && everyScalar test value)) &&
      everyMember test rest

end

def isWholeScalar : Json → Bool
  | .string content => content.whole
  | _ => true

/-- Whether no string in a value holds half a surrogate pair. -/
def isWhole (value : Json) : Bool := value.everyScalar isWholeScalar

def isSendableScalar : Json → Bool
  | .string content => content.whole
  | .int n => decide (HasNumeral n)
  | .notFinite => false
  | _ => true

/-- Whether a value can be written and encoded: its strings are texts, its integers have numerals, and
    no number is NaN or an infinity. -/
def isSendable (value : Json) : Bool := value.everyScalar isSendableScalar

/-- Why a text is not JSON, or not read. -/
inductive Fault
  /-- The first position that does not fit. -/
  | unexpected (position : Nat)
  /-- An integer with more digits than are read. -/
  | tooManyDigits
  /-- Brackets nested deeper than is read. -/
  | tooDeep
  deriving DecidableEq, Repr

/-- What is left to read, and how far that is into the text. -/
structure Rest where
  position : Nat
  text : Text

/-- Blanks between tokens. -/
def isGap (c : Char) : Bool := c == ' ' || c == '\t' || c == '\n' || c == '\r'

/-- The rest behind the characters of a class it starts with. -/
def Rest.skip (r : Rest) (p : Char → Bool) : Rest :=
  ⟨r.position + (r.text.takeWhile p).length, r.text.dropWhile p⟩

/-! ## Strings -/

def hexValue? (c : Char) : Option Nat :=
  if c.isDigit then some (c.toNat - 48)
  else if 'a' ≤ c && c ≤ 'f' then some (c.toNat - 87)
  else if 'A' ≤ c && c ≤ 'F' then some (c.toNat - 55)
  else none

def hex4? (a b c d : Char) : Option Nat := do
  return (((← hexValue? a) * 16 + (← hexValue? b)) * 16 + (← hexValue? c)) * 16 + (← hexValue? d)

/-- The character of a one-letter escape. -/
def escaped? : Char → Option Char
  | '"' => some '"'
  | '\\' => some '\\'
  | '/' => some '/'
  | 'b' => some '\x08'
  | 'f' => some '\x0c'
  | 'n' => some '\n'
  | 'r' => some '\r'
  | 't' => some '\t'
  | _ => none

/-- One half of a surrogate pair. -/
def isHigh (n : Nat) : Bool := 0xD800 ≤ n && n ≤ 0xDBFF

/-- The other half. -/
def isLow (n : Nat) : Bool := 0xDC00 ≤ n && n ≤ 0xDFFF

/-- The second half that follows an escape, if one does; digits that are none are a fault, at the
    position given. -/
def pairedWith? (position : Nat) : Text → Except Fault (Option Nat)
  | '\\' :: 'u' :: a :: b :: c :: d :: _ :: _ =>
    match hex4? a b c d with
    | none => .error (.unexpected position)
    | some low => .ok (if isLow low then some low else none)
  | _ => .ok none

/-- Puts a character in front of what is read already, last character first. -/
def withChar (c : Char) (read : JsonString) : JsonString := ⟨c :: read.text, read.halves⟩

/-- Puts a unit, which may be half a pair, in front of what is read already. -/
def withUnit (unit : Nat) (read : JsonString) : JsonString :=
  if isHigh unit || isLow unit then
    ⟨halfMark unit :: read.text, unit :: read.halves⟩
  else withChar (Char.ofNat unit) read

/-- The character that two halves spell. -/
def paired (high low : Nat) : Char :=
  Char.ofNat (0x10000 + (high - 0xD800) * 0x400 + (low - 0xDC00))

/-- The rest of a string whose opening quote stands at `opening`. -/
def readString (opening : Nat) (position : Nat) (read : JsonString) :
    Text → Except Fault (JsonString × Rest)
  | [] => .error (.unexpected opening)
  | '"' :: rest => .ok (⟨read.text.reverse, read.halves.reverse⟩, ⟨position + 1, rest⟩)
  | '\\' :: [] => .error (.unexpected opening)
  | '\\' :: 'u' :: a :: b :: c :: d :: e :: rest =>
    match hex4? a b c d with
    | none => .error (.unexpected (position + 1))
    | some unit =>
      match if isHigh unit then pairedWith? (position + 7) (e :: rest) else .ok none with
      | .error fault => .error fault
      | .ok none => readString opening (position + 6) (withUnit unit read) (e :: rest)
      | .ok (some low) =>
        match rest with
        | _ :: _ :: _ :: _ :: _ :: rest =>
          readString opening (position + 12) (withChar (paired unit low) read) rest
        | _ => .error (.unexpected opening)
  | '\\' :: 'u' :: _ => .error (.unexpected (position + 1))
  | '\\' :: c :: rest =>
    match escaped? c with
    | none => .error (.unexpected position)
    | some char => readString opening (position + 2) (withChar char read) rest
  | c :: rest =>
    if c.toNat ≤ 0x1F then .error (.unexpected position)
    else readString opening (position + 1) (withChar c read) rest

/-! ## Numbers -/

/-- The number that decimal digits spell. -/
def digitsValue (digits : Text) : Nat := digits.foldl (fun n d => n * 10 + (d.toNat - 48)) 0

/-- An exponent at the front of a text: its value and how many characters it takes. -/
def exponentAt? : Text → Option (Int × Nat)
  | e :: rest =>
    if e == 'e' || e == 'E' then
      let (sign, signed, digits) := match rest with
        | '-' :: r => ((-1 : Int), 1, r.takeWhile Char.isDigit)
        | '+' :: r => (1, 1, r.takeWhile Char.isDigit)
        | r => (1, 0, r.takeWhile Char.isDigit)
      if digits.isEmpty then none
      else some (sign * (digitsValue digits : Int), 1 + signed + digits.length)
    else none
  | [] => none

/-- A fraction at the front of a text: its digits. -/
def fractionAt? : Text → Option Text
  | '.' :: rest =>
    let digits := rest.takeWhile Char.isDigit
    if digits.isEmpty then none else some digits
  | _ => none

/-- The digits in front of the fraction: a single zero, or digits that do not start with one. -/
def wholeDigits : Text → Text
  | '0' :: _ => ['0']
  | text => text.takeWhile Char.isDigit

/-- A number at the front of the rest. -/
def readNumber (r : Rest) : Except Fault (Json × Rest) :=
  let (sign, signed) : Int × Nat := if r.text.head? = some '-' then (-1, 1) else (1, 0)
  let body := r.text.drop signed
  let whole := wholeDigits body
  if whole.isEmpty then .error (.unexpected r.position)
  else
    let fraction := fractionAt? (body.drop whole.length)
    let fractionLength := (fraction.map fun digits => digits.length + 1).getD 0
    let exponent := exponentAt? (body.drop (whole.length + fractionLength))
    let length := signed + whole.length + fractionLength + (exponent.map Prod.snd).getD 0
    let rest : Rest := ⟨r.position + length, r.text.drop length⟩
    match fraction, exponent with
    | none, none =>
      if numeralLimit < whole.length then .error .tooManyDigits
      else .ok (.int (sign * digitsValue whole), rest)
    | _, _ =>
      let digits := fraction.getD []
      .ok (.decimal (sign * digitsValue (whole ++ digits))
        ((exponent.map Prod.fst).getD 0 - digits.length), rest)

/-! ## Values -/

def words : List (Text × Json) :=
  [("null".toList, .null), ("true".toList, .bool true), ("false".toList, .bool false),
    ("NaN".toList, .notFinite), ("Infinity".toList, .notFinite), ("-Infinity".toList, .notFinite)]

/-- A word or a number at the front of the rest. -/
def readScalar (r : Rest) : Except Fault (Json × Rest) :=
  match words.find? fun word => word.1.isPrefixOf r.text with
  | some (word, value) => .ok (value, ⟨r.position + word.length, r.text.drop word.length⟩)
  | none => readNumber r

/-- How deep brackets may be nested. -/
def nestingLimit : Nat := 960

mutual

/-- A value at the front of the rest, in which brackets may be nested as deep as `room` says. -/
def readValue : (fuel room : Nat) → Rest → Except Fault (Json × Rest)
  | 0, _, r => .error (.unexpected r.position)
  | fuel + 1, room, r =>
    match r.text, room with
    | [], _ => .error (.unexpected r.position)
    | '"' :: text, _ =>
      match readString r.position (r.position + 1) (.ofText []) text with
      | .error fault => .error fault
      | .ok (content, rest) => .ok (.string content, rest)
    | '[' :: _, 0 | '\x7b' :: _, 0 => .error .tooDeep
    | '[' :: text, room + 1 =>
      let inner := (Rest.mk (r.position + 1) text).skip isGap
      match inner.text with
      | ']' :: text => .ok (.array [], ⟨inner.position + 1, text⟩)
      | _ => readItems fuel room [] inner
    | '\x7b' :: text, room + 1 =>
      let inner := (Rest.mk (r.position + 1) text).skip isGap
      match inner.text with
      | '\x7d' :: text => .ok (.object [], ⟨inner.position + 1, text⟩)
      | _ => readMembers fuel room [] inner
    | _, _ => readScalar r

/-- The items of an array from a value on; those read already come last first. -/
def readItems : (fuel room : Nat) → List Json → Rest → Except Fault (Json × Rest)
  | 0, _, _, r => .error (.unexpected r.position)
  | fuel + 1, room, items, r =>
    match readValue fuel room r with
    | .error fault => .error fault
    | .ok (value, rest) =>
      let rest := rest.skip isGap
      match rest.text with
      | ']' :: text => .ok (.array (value :: items).reverse, ⟨rest.position + 1, text⟩)
      | ',' :: text =>
        readItems fuel room (value :: items) ((Rest.mk (rest.position + 1) text).skip isGap)
      | _ => .error (.unexpected rest.position)

/-- The members of an object from a name on; those read already come last first. -/
def readMembers : (fuel room : Nat) → List (JsonString × Json) → Rest →
    Except Fault (Json × Rest)
  | 0, _, _, r => .error (.unexpected r.position)
  | fuel + 1, room, members, r =>
    match r.text with
    | '"' :: text =>
      match readString r.position (r.position + 1) (.ofText []) text with
      | .error fault => .error fault
      | .ok (name, rest) =>
        let rest := rest.skip isGap
        match rest.text with
        | ':' :: text =>
          match readValue fuel room ((Rest.mk (rest.position + 1) text).skip isGap) with
          | .error fault => .error fault
          | .ok (value, rest) =>
            let rest := rest.skip isGap
            match rest.text with
            | '\x7d' :: text => .ok (.object ((name, value) :: members).reverse,
                ⟨rest.position + 1, text⟩)
            | ',' :: text => readMembers fuel room ((name, value) :: members)
                ((Rest.mk (rest.position + 1) text).skip isGap)
            | _ => .error (.unexpected rest.position)
        | _ => .error (.unexpected rest.position)
    | _ => .error (.unexpected r.position)

end

/-- The value that a text spells, with gaps around it and nothing else. -/
def read (text : Text) : Except Fault Json :=
  match readValue (2 * text.length + 2) nestingLimit ((Rest.mk 0 text).skip isGap) with
  | .error fault => .error fault
  | .ok (value, rest) =>
    let rest := rest.skip isGap
    match rest.text with
    | [] => .ok value
    | _ => .error (.unexpected rest.position)

end Json

end ClassLift
