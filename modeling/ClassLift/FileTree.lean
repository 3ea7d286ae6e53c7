/-
  A tree of directories and files.

  1. **State.**  The tree holds a node for each place that exists; the top always exists and is a
     directory.  There are no links.

  2. **Looking up** walks through the parts of a path from left to right.  Every part but the last
     must lead to a directory; the FIRST obstacle is the fault, so a missing part hides an
     overlong name further on.  Two dots lead to the parent of a directory that exists.  A name
     may take 255 bytes and a path 4095.

  3. **Asking** whether something exists or is a directory takes a missing part and a file in
     the way for a plain no; an overlong name stays a fault.

  4. **Making directories** makes what is missing on the way, the top first.  If a later name turns
     out to be too long, the directories made before it stay.
-/
import ClassLift.Path
import ClassLift.Text.Quoted
import ClassLift.Text.Utf8

namespace ClassLift

/-! ## Faults -/

inductive PathFault
  | noEntry
  | alreadyThere
  | notDirectory
  | isDirectory
  | nameTooLong
  deriving DecidableEq, Repr

def PathFault.number : PathFault → Nat
  | noEntry => 2
  | alreadyThere => 17
  | notDirectory => 20
  | isDirectory => 21
  | nameTooLong => 36

def PathFault.reason : PathFault → Text
  | noEntry => "No such file or directory".toList
  | alreadyThere => "File exists".toList
  | notDirectory => "Not a directory".toList
  | isDirectory => "Is a directory".toList
  | nameTooLong => "File name too long".toList

/-- A fault and the path that has it. -/
structure PathError where
  fault : PathFault
  path : Text
  deriving DecidableEq, Repr

/-- The error as shown to the user. -/
def PathError.message (e : PathError) : Text :=
  "[Errno ".toList ++ decimal e.fault.number ++ "] ".toList ++ e.fault.reason ++ ": ".toList ++
    quoted e.path

/-! ## The tree -/

inductive Node
  | directory
  | file (bytes : ByteArray)

/-- The places that exist, with what stands there. -/
structure FileTree where
  nodes : List (Place × Node)

namespace FileTree

def get? (t : FileTree) (place : Place) : Option Node :=
  if place.isEmpty then some .directory else t.nodes.lookup place

/-- The tree with a node put at a place. -/
def set (t : FileTree) (place : Place) (node : Node) : FileTree :=
  ⟨(place, node) :: t.nodes.filter fun entry => entry.1 != place⟩

/-! ## Looking up -/

/-- How many bytes a name may take. -/
def nameLimit : Nat := 255

/-- How many bytes a path may take. -/
def pathLimit : Nat := 4095

/-- Where parts lead from a place, and what stands there. -/
def walk (t : FileTree) : Place → List Text → Except PathFault (Place × Node)
  | here, [] =>
    match t.get? here with
    | some node => .ok (here, node)
    | none => .error .noEntry
  | here, part :: rest =>
    match t.get? here with
    | none => .error .noEntry
    | some (.file _) => .error .notDirectory
    | some .directory =>
      if part == upward then t.walk here.dropLast rest
      else if nameLimit < utf8Length part then .error .nameTooLong
      else t.walk (here ++ [part]) rest

/-- Where a path leads from a base, and what stands there. -/
def find (t : FileTree) (base : Place) (p : Path) : Except PathFault (Place × Node) :=
  if pathLimit < utf8Length p.toText then .error .nameTooLong
  else t.walk (if p.slashes = 0 then base else []) p.parts

/-- What stands at a place, or why nothing can. -/
def findPlace (t : FileTree) (place : Place) : Except PathFault Node :=
  (t.find [] (Place.path place)).map Prod.snd

/-- What stands at a place, where nothing is an answer and an overlong name is not. -/
def findIfAny (t : FileTree) (place : Place) : Except PathFault (Option Node) :=
  match t.findPlace place with
  | .ok node => .ok (some node)
  | .error .noEntry | .error .notDirectory => .ok none
  | .error fault => .error fault

def isDirectory (t : FileTree) (place : Place) : Except PathFault Bool :=
  (t.findIfAny place).map fun
    | some .directory => true
    | _ => false

/-- A file read as text: the place it stands at, and the text if its bytes hold one. -/
def readFile (t : FileTree) (base : Place) (p : Path) : Except PathError (Place × Option Text) :=
  match t.find base p with
  | .error fault => .error ⟨fault, p.toText⟩
  | .ok (_, .directory) => .error ⟨.isDirectory, p.toText⟩
  | .ok (place, .file bytes) => .ok (place, readText? bytes)

/-! ## Making directories -/

/-- One more directory, in a directory that exists. -/
def makeDirectory (t : FileTree) (place : Place) : Except PathFault FileTree :=
  match t.findPlace place with
  | .ok _ => .error .alreadyThere
  | .error .noEntry =>
    match t.findPlace place.dropLast with
    | .ok _ => .ok (t.set place .directory)
    | .error fault => .error fault
  | .error fault => .error fault

/-- A directory that could not be made is no error if it is there. -/
def settle (t : FileTree) (place : Place) (fault : PathFault) : Except PathError Unit :=
  match t.isDirectory place with
  | .ok true => .ok ()
  | .ok false => .error ⟨fault, placeText place⟩
  | .error worse => .error ⟨worse, placeText place⟩

/-- A directory and all that is missing above it; the place is given from its last part to its
    first. -/
def makeDirectories (t : FileTree) : List Text → FileTree × Except PathError Unit
  | [] => (t, .ok ())
  | name :: above =>
    let place := (name :: above).reverse
    match t.makeDirectory place with
    | .ok t => (t, .ok ())
    | .error .noEntry =>
      match t.makeDirectories above with
      | (t, .error e) => (t, .error e)
      | (t, .ok ()) =>
        match t.makeDirectory place with
        | .ok t => (t, .ok ())
        | .error fault => (t, t.settle place fault)
    | .error fault => (t, t.settle place fault)

/-! ## Listing -/

/-- Whether nothing stands below a place. -/
def isBare (t : FileTree) (place : Place) : Bool :=
  !t.nodes.any fun entry => place.isPrefixOf entry.1 && entry.1 != place

/-- Every file below a place and every directory without anything in it, the latter with a final
    slash, by their paths from there, in order. -/
def listing (t : FileTree) (place : Place) : List (Text × Option ByteArray) :=
  let below := t.nodes.filterMap fun entry =>
    match place.isPrefixOf? entry.1 with
    | none | some [] => none
    | some parts =>
      match entry.2 with
      | .file bytes => some (joinWith ['/'] parts, some bytes)
      | .directory => if t.isBare entry.1 then some (joinWith ['/'] parts ++ ['/'], none) else none
  below.mergeSort fun a b => !(b.1 < a.1)

end FileTree

end ClassLift
