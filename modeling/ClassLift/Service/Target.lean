/-
  Request targets.

  A request names an endpoint by the path in its target.  Two targets mean the same path if they
  differ only in this:

  1. A query and a fragment, and a host in front, are no part of the path.
  2. A path starts with one slash, whether the target starts with none or with several.
  3. A part of a single dot says nothing, and two dots take back the part before them.  This is
     settled BEFORE escapes are replaced, so an escaped dot is a part like any other.
  4. Percent escapes are replaced on the way in and once more where the endpoint is looked up.
-/
import ClassLift.Json

namespace ClassLift.Service

/-! ## Parts -/

/-- The target without its query and its fragment. -/
def withoutQuery (target : Text) : Text := target.takeWhile fun c => c != '?' && c != '#'

/-- The target without the host that two slashes announce. -/
def withoutHost : Text → Text
  | '/' :: '/' :: rest => rest.dropWhile (· != '/')
  | target => target

/-- The parts of a path without its dots; the empty part before the first slash is never taken
    back. -/
def settleDots (parts : List Text) : List Text :=
  parts.foldl (fun settled part =>
    if part == ['.'] then settled
    else if part == ['.', '.'] then (if settled == [[]] then settled else settled.dropLast)
    else settled ++ [part]) []

/-! ## Escapes -/

/-- The text with its percent escapes replaced.  No path of an endpoint has a byte outside ASCII, so
    such a byte need not be told from another: the replacement character stands for each. -/
def replaceEscapes : Text → Text
  | '%' :: a :: b :: rest =>
    match Json.hexValue? a, Json.hexValue? b with
    | some high, some low =>
      (if high < 8 then Char.ofNat (high * 16 + low) else '\ufffd') :: replaceEscapes rest
    | _, _ => '%' :: replaceEscapes (a :: b :: rest)
  | c :: rest => c :: replaceEscapes rest
  | [] => []

/-! ## Paths -/

/-- The path that a target means. -/
def targetPath (target : Text) : Text :=
  let path := '/' :: (withoutHost (withoutQuery target)).dropWhile (· == '/')
  replaceEscapes (replaceEscapes (joinWith ['/'] (settleDots (path.splitOn '/'))))

/-- A path without the slashes at its end. -/
def withoutFinalSlashes (path : Text) : Text := (path.reverse.dropWhile (· == '/')).reverse

example : targetPath "/x/../a/./b?q".toList = "/a/b".toList ∧
    targetPath "//host/%2568".toList = "/h".toList ∧
    targetPath "/%2e%2e/a".toList = "/../a".toList := by decide

end ClassLift.Service
