/-
  Class attributes, as they are written in a line of markup.

  1. **Forms.**  Seven ways of writing a class list are known, tried in this order:

         className={`...`}       a template
         className="..."         and with single quotes
         class="..."             and with single quotes
         :class="'...'"          a bound string
         [class]="..."           a bound property

     A form is a keyword, an equals sign with any blanks around it, an opener, a value free of the
     form's delimiter, and a closer.  The opener ends in the delimiter and the closer starts with
     it, so where the value ends is never in doubt.  The two plain `class` forms must not follow a
     colon, a bracket, a dot or a word character, or they would claim the bound forms and the ends
     of longer names.

  2. **Occurrences.**  An occurrence splits the line: what stands before, the header (keyword to
     opener), the value as written, the closer, what stands after.  Every place of a split is
     forced once its start is known, hence the leftmost occurrence of a form is found by trying
     the starts from left to right.

  3. **Choice.**  The first form whose leftmost occurrence has a value that is not blank is the
     attribute of the line, wherever in the line it stands.  A form whose leftmost occurrence is
     blank is passed over altogether.

  This is pattern matching on text and not a parser of markup.
-/
import ClassLift.Text.Lines
import ClassLift.Text.WordChar

namespace ClassLift

/-! ## Forms -/

/-- The ways of writing a class list. -/
inductive Form
  | template
  | namedDouble
  | namedSingle
  | plainDouble
  | plainSingle
  | boundString
  | boundProperty
  deriving DecidableEq, Repr

namespace Form

/-- All forms in the order in which they are tried. -/
def all : List Form :=
  [template, namedDouble, namedSingle, plainDouble, plainSingle, boundString, boundProperty]

/-- What the attribute starts with. -/
def keyword : Form → Text
  | template | namedDouble | namedSingle => "className".toList
  | plainDouble | plainSingle => "class".toList
  | boundString => ":class".toList
  | boundProperty => "[class]".toList

/-- The character that the value cannot hold. -/
def delimiter : Form → Char
  | template => '`'
  | namedDouble | plainDouble | boundProperty => '"'
  | namedSingle | plainSingle | boundString => '\x27'

/-- What stands in front of the opening delimiter. -/
def openingBracket : Form → Text
  | template => ['\x7b']
  | boundString => ['"']
  | _ => []

/-- What stands behind the closing delimiter. -/
def closingBracket : Form → Text
  | template => ['\x7d']
  | boundString => ['"']
  | _ => []

/-- What stands between the equals sign and the value. -/
def opener (f : Form) : Text := f.openingBracket ++ [f.delimiter]

def closer (f : Form) : Text := f.delimiter :: f.closingBracket

/-- Whether the form may stand right behind a character; `none` is the start of the line. -/
def mayFollow (f : Form) (previous : Option Char) : Bool :=
  match f, previous with
  | plainDouble, some c | plainSingle, some c =>
    !(c == ':' || c == '[' || c == '.' || isWordChar c)
  | _, _ => true

end Form

/-! ## Occurrences -/

inductive Kind
  | named
  | plain
  deriving DecidableEq, Repr

inductive Quote
  | double
  | single
  | backtick
  deriving DecidableEq, Repr

/-- An occurrence of a form in a line: the line is
    `before ++ header ++ raw ++ form.closer ++ after`. -/
structure Attribute where
  form : Form
  before : Text
  header : Text
  raw : Text
  after : Text
  deriving DecidableEq, Repr

namespace Attribute

/-- The line that the occurrence splits. -/
def line (a : Attribute) : Text := a.before ++ a.header ++ a.raw ++ a.form.closer ++ a.after

/-- The occurrence itself, from keyword to closer. -/
def fullMatch (a : Attribute) : Text := a.header ++ a.raw ++ a.form.closer

/-- The class list: the value without the blanks at its ends. -/
def value (a : Attribute) : Text := strip a.raw

/-- Where the value as written starts in its line. -/
def valueStart (a : Attribute) : Nat := a.before.length + a.header.length

def valueEnd (a : Attribute) : Nat := a.valueStart + a.raw.length

/-- The kind of keyword, told from the whole occurrence (`_attribute_kind`). -/
def kind (a : Attribute) : Kind :=
  if occursIn "className".toList a.fullMatch then .named else .plain

/-- The kind of quote, told from the whole occurrence: a backtick anywhere in it says more than a
    single quote, and that more than a double one (`_quote_style`). -/
def quote (a : Attribute) : Quote :=
  if a.fullMatch.contains '`' then .backtick
  else if a.fullMatch.contains '\x27' then .single
  else .double

/-- The same occurrence in a line with one more character in front. -/
def shift (c : Char) (a : Attribute) : Attribute := { a with before := c :: a.before }

end Attribute

/-! ## Finding the attribute of a line -/

/-- The occurrence at the very start of a text. -/
def Form.atStart? (f : Form) (text : Text) : Option Attribute := do
  let afterKeyword ← f.keyword.isPrefixOf? text
  let afterEquals ← ['='].isPrefixOf? (stripLeft afterKeyword)
  let body ← f.opener.isPrefixOf? (stripLeft afterEquals)
  let raw := body.takeWhile (· != f.delimiter)
  let after ← f.closer.isPrefixOf? (body.dropWhile (· != f.delimiter))
  let header :=
    f.keyword ++ afterKeyword.takeWhile isBlank ++ '=' :: afterEquals.takeWhile isBlank ++ f.opener
  return ⟨f, [], header, raw, after⟩

/-- The leftmost occurrence in a text that stands behind the character `previous`. -/
def Form.leftmost? (f : Form) (previous : Option Char) : Text → Option Attribute
  | [] => none
  | c :: rest =>
    match if f.mayFollow previous then f.atStart? (c :: rest) else none with
    | some a => some a
    | none => (f.leftmost? (some c) rest).map (Attribute.shift c)

/-- The attribute of a line: the leftmost occurrence of the first form that has one whose value is
    not blank (`find_class_attribute`). -/
def findAttribute (line : Text) : Option Attribute :=
  Form.all.findSome? fun f => (f.leftmost? none line).filter fun a => !a.value.isEmpty

example : (findAttribute "<div class=\"flex p-4\">".toList).map Attribute.value =
    some "flex p-4".toList := by decide

example : (findAttribute "<i class=\"\" className='x'>".toList).map Attribute.value =
    some "x".toList := by decide

end ClassLift
