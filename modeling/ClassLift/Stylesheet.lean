/-
  Stylesheets: where rules are appended.

  1. **Targets.**  A target is a path, seen from the workspace root.  Its place must lie strictly
     below the root, part by part, and must not be a directory.  What is rejected is rejected before
     anything is made, in this order: the root itself, a place outside, a directory.

  2. **Appending.**  An empty rule changes nothing.  Otherwise missing directories are made, and the
     rule goes behind what the file holds, with a separator of line feeds in between that makes
     exactly one blank line: none if the file is blank or ends in a blank line already, one if it
     ends in a line feed, else two.  The separator is chosen by the text of the file with its
     line ends unified; the bytes that are there stay as they are.
-/
import ClassLift.FileTree

namespace ClassLift

/-! ## What can go wrong -/

inductive Rejection
  | atRoot
  | outside
  | directory
  deriving DecidableEq, Repr

def Rejection.reason : Rejection → Text
  | atRoot => "is the workspace root".toList
  | outside => "is outside the workspace root".toList
  | directory => "is a directory".toList

inductive StylesheetError
  /-- The target is not a stylesheet in the workspace. -/
  | rejected (target : Text) (root : Place) (why : Rejection)
  /-- A path holds the character NUL, which no path can. -/
  | nulCharacter
  /-- The stylesheet is there and is no text. -/
  | notText
  | system (e : PathError)
  deriving DecidableEq, Repr

/-- What the user is told about a rejected target that is shown in some way. -/
def rejectionOf (shown : Text) (why : Rejection) : Text :=
  "Stylesheet path ".toList ++ shown ++ ' ' :: why.reason

def rejectionMessage (target : Text) (why : Rejection) : Text := rejectionOf (quoted target) why

/-- What is said about a path with the character NUL. -/
def nulMessage : Text := "embedded null byte".toList

/-- What an error says, if it says anything. -/
def StylesheetError.message? : StylesheetError → Option Text
  | rejected target _ why => some (rejectionMessage target why)
  | nulCharacter => some nulMessage
  | notText => none
  | system e => some e.message

/-! ## Targets -/

/-- The place of the workspace root, seen from the working directory. -/
def workspacePlace (workingDirectory : Place) (root : Text) : Except StylesheetError Place :=
  if root.contains '\x00' then .error .nulCharacter
  else .ok ((Path.ofText root).placeFrom workingDirectory)

/-- The place of a stylesheet (`resolve`). -/
def resolveStylesheet (t : FileTree) (root : Place) (target : Text) :
    Except StylesheetError Place :=
  if target.contains '\x00' then .error .nulCharacter
  else
    let place := (Path.ofText target).placeFrom root
    if place == root then .error (.rejected target root .atRoot)
    else if !root.isPrefixOf place then .error (.rejected target root .outside)
    else
      match t.isDirectory place with
      | .error fault => .error (.system ⟨fault, placeText place⟩)
      | .ok true => .error (.rejected target root .directory)
      | .ok false => .ok place

/-! ## Appending -/

/-- What goes between the text of a stylesheet and a new rule. -/
def separator (existing : Text) : Text :=
  if (strip existing).isEmpty || "\n\n".toList.isSuffixOf existing then []
  else if ['\n'].isSuffixOf existing then ['\n']
  else ['\n', '\n']

example : separator "a".toList = "\n\n".toList ∧ separator "a\n".toList = "\n".toList ∧
    separator "a\n\n".toList = [] ∧ separator " \t".toList = [] := by decide

/-- What a stylesheet holds before a rule is appended: its bytes and their text.  One that is not
    there yet is made, and holds nothing. -/
def openFile (t : FileTree) (place : Place) :
    FileTree × Except StylesheetError (ByteArray × Text) :=
  match t.findIfAny place with
  | .error fault => (t, .error (.system ⟨fault, placeText place⟩))
  | .ok none => (t.set place (.file (utf8 [])), .ok (utf8 [], []))
  | .ok (some .directory) => (t, .error (.system ⟨.isDirectory, placeText place⟩))
  | .ok (some (.file bytes)) =>
    match readText? bytes with
    | none => (t, .error .notText)
    | some existing => (t, .ok (bytes, existing))

/-- What a stylesheet holds, once the directories above it are made. -/
def openStylesheet (t : FileTree) (place : Place) :
    FileTree × Except StylesheetError (ByteArray × Text) :=
  match t.makeDirectories place.dropLast.reverse with
  | (t, .error e) => (t, .error (.system e))
  | (t, .ok ()) => openFile t place

/-- Appends a rule to a stylesheet, and tells the place of the stylesheet (`append_rule`). -/
def appendRule (t : FileTree) (root : Place) (target css : Text) :
    FileTree × Except StylesheetError Place :=
  match resolveStylesheet t root target with
  | .error e => (t, .error e)
  | .ok place =>
    if css.isEmpty then (t, .ok place)
    else
      match openStylesheet t place with
      | (t, .error e) => (t, .error e)
      | (t, .ok (bytes, existing)) =>
        (t.set place (.file (bytes ++ utf8 (separator existing ++ css))), .ok place)

end ClassLift
