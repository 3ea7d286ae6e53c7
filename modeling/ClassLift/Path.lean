/-
  Paths.

  1. **As written.**  A path is its leading slashes and its parts.  Empty parts and parts that are a
     single dot say nothing and are dropped, which also drops repeated and final slashes; a part of
     two dots is kept.  One slash in front is as good as three or more; exactly two are kept apart,
     since some systems give them a meaning.

  2. **As a place.**  A place is an absolute path by its parts, without any dots.  Two dots take
     back the part before them, whether or not there is a file of that name, and nothing at the
     top.  A relative path starts from a base, an absolute one from the top, so an absolute target
     simply replaces the base it is joined to.
-/
import ClassLift.Text.Lines

namespace ClassLift

/-! ## Paths as written -/

/-- A path: how many slashes it starts with (0, 1 or 2), and its parts. -/
structure Path where
  slashes : Nat
  parts : List Text
  deriving DecidableEq, Repr

namespace Path

def ofText (t : Text) : Path :=
  let slashes := (t.takeWhile (· == '/')).length
  ⟨if slashes ≤ 2 then slashes else 1, (t.splitOn '/').filter fun part =>
    !(part == [] || part == ['.'])⟩

/-- The path in its shortest spelling; a relative path without parts is a dot. -/
def toText (p : Path) : Text :=
  if p.slashes = 0 && p.parts.isEmpty then ['.']
  else List.replicate p.slashes '/' ++ joinWith ['/'] p.parts

end Path

example : (Path.ofText "./a//b/../c/".toList).toText = "a/b/../c".toList := by decide

/-! ## Places -/

/-- An absolute path by its parts. -/
abbrev Place := List Text

/-- The part that leads one up. -/
def upward : Text := ['.', '.']

/-- The place that parts lead to from the top. -/
def placeOf (parts : List Text) : Place :=
  parts.foldl (fun place part => if part == upward then place.dropLast else place ++ [part]) []

/-- The place of a path, seen from a base. -/
def Path.placeFrom (base : Place) (p : Path) : Place :=
  placeOf (if p.slashes = 0 then base ++ p.parts else p.parts)

/-- The absolute path of a place. -/
def Place.path (place : Place) : Path := ⟨1, place⟩

def placeText (place : Place) : Text := (Place.path place).toText

example : (Path.ofText "d/../../x.css".toList).placeFrom ["w".toList] = ["x.css".toList] := by
  decide

end ClassLift
