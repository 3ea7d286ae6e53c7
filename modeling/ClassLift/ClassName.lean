/-
  Names of classes.

  1. **Sanitizing** turns any text into a class identifier, `[A-Za-z_][A-Za-z0-9_-]*`: the dots in
     front go, every other character that an identifier cannot hold becomes a hyphen, the hyphens
     now in front go, and a name that starts with a digit gets an underscore before it.  If nothing
     is left, a fixed name stands in.  A text that is an identifier already stays as it is.

  2. **Validating** is stricter, because it judges what somebody typed: after trimming there must be
     something, it must not start with an ASCII digit, and it must not hold a blank.  The first
     fault in this order is the one that is reported; a name without fault is then sanitized.
-/
import ClassLift.Text.Blank

namespace ClassLift

/-! ## Sanitizing -/

/-- Characters that an identifier may start with. -/
def isNameStart (c : Char) : Bool := c.isAlpha || c == '_'

/-- Characters that an identifier may hold. -/
def isNameChar (c : Char) : Bool := c.isAlphanum || c == '_' || c == '-'

/-- The name that stands in where nothing is left. -/
def fallbackName : Text := "extracted-class".toList

/-- A class identifier made of any text (`sanitize_name`). -/
def sanitize (raw : Text) : Text :=
  let body := ((raw.dropWhile (· == '.')).map fun c => if isNameChar c then c else '-').dropWhile
    (· == '-')
  match body with
  | [] => fallbackName
  | c :: _ => if isNameStart c then body else '_' :: body

example : sanitize ".card header!".toList = "card-header-".toList ∧
    sanitize "2xl".toList = "_2xl".toList ∧ sanitize "..".toList = fallbackName := by decide

/-! ## Validating -/

inductive NameFault
  | missing
  | leadingDigit
  | blankInside
  deriving DecidableEq, Repr

def NameFault.message : NameFault → Text
  | missing => "Class name is required".toList
  | leadingDigit => "Class name cannot start with a number".toList
  | blankInside => "Class name cannot contain spaces".toList

/-- The first fault of a trimmed name. -/
def nameFault? (name : Text) : Option NameFault :=
  match name with
  | [] => some .missing
  | c :: _ =>
    if c.isDigit then some .leadingDigit
    else if name.any isBlank then some .blankInside
    else none

/-- The identifier for a name somebody typed, or the trimmed name and its first fault
    (`validate_class_name`). -/
def validateName (typed : Option Text) : Except (Text × NameFault) Text :=
  let name := strip (typed.getD [])
  match nameFault? name with
  | some fault => .error (name, fault)
  | none => .ok (sanitize name)

end ClassLift
