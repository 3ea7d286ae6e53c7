/-
  The program.

  All decisions are made by `CommandLine.run`, which works on a value that describes a file tree.
  What is left here: ask the system for the settings and for every place that the arguments may
  name, run, write the files that have changed, and print.
-/
import ClassLift.CommandLine.Run
import ClassLift.Settings.Load

namespace ClassLift.CommandLine

/-- The code of the system for reading a directory as a file. -/
def isDirectoryCode : UInt32 := 21

/-- What stands at a place of the system. -/
def askPlace (place : Place) : IO (Option Node) := do
  try
    return some (.file (← IO.FS.readBinFile (String.ofList (placeText place))))
  catch
    | .inappropriateType _ code _ =>
      return if code == isDirectoryCode then some .directory else none
    | _ => return none

/-- Every place on the way along a path. -/
def placesAlong (base : Place) (t : Text) : List Place :=
  if t.contains '\x00' then []
  else
    let path := Path.ofText t
    let whole := if path.slashes = 0 then base ++ path.parts else path.parts
    (List.range (whole.length + 1)).map fun n => placeOf (whole.take n)

/-- The part of the system's tree that a run may look at. -/
def askTree (workingDirectory : Place) (settings : Settings) (args : List Text) : IO FileTree := do
  let root := (Path.ofText settings.workspaceRoot).placeFrom workingDirectory
  let names := settings.targetStylesheet :: settings.workspaceRoot :: args ++
    args.map fun arg => (arg.dropWhile (· != '=')).drop 1
  let places := names.flatMap fun name =>
    placesAlong workingDirectory name ++ placesAlong root name
  places.foldlM (fun (t : FileTree) place => do
    match t.nodes.lookup place with
    | some _ => return t
    | none =>
      match ← askPlace place with
      | some node => return t.set place node
      | none => return t) ⟨[]⟩

/-- Brings the system's tree up to date, directories before what stands in them. -/
def writeTree (old new : FileTree) : IO Unit := do
  for (place, node) in new.nodes.mergeSort (fun a b => a.1.length ≤ b.1.length) do
    let name := String.ofList (placeText place)
    match node, old.get? place with
    | .directory, none => IO.FS.createDir name
    | .file bytes, some (.file before) =>
      if bytes != before then IO.FS.writeBinFile name bytes
    | .file bytes, _ => IO.FS.writeBinFile name bytes
    | .directory, _ => pure ()

/-- The settings that the environment and the environment file give. -/
def askSettings (workingDirectory : Place) : IO (Checked Settings) := do
  let mut environment : List (Text × Text) := []
  for name in settingNames do
    for spelling in [name.map Char.toLower, name] do
      match ← IO.getEnv (String.ofList spelling) with
      | some value => environment := environment ++ [(spelling, value.toList)]
      | none => pure ()
  let file := match ← askPlace (workingDirectory ++ [".env".toList]) with
    | some (.file bytes) => readText? bytes
    | _ => none
  return loadSettings { environment := environment, file := file }

/-- The text of an error in the settings. -/
def settingErrorLine (e : FieldError) : Text :=
  e.location.flatMap (fun
    | .name field => field
    | .position index => decimal index) ++ ": ".toList ++ e.fault.message ++ ['\n']

end ClassLift.CommandLine

open ClassLift ClassLift.CommandLine in
/-- Runs the program on the system. -/
def main (args : List String) : IO UInt32 := do
  let workingDirectory := (Path.ofText (← IO.currentDir).toString.toList).placeFrom []
  match ← askSettings workingDirectory with
  | .faulty errors =>
    IO.eprint (String.ofList (errors.flatMap settingErrorLine))
    return 1
  | .ok settings =>
    let texts := args.map String.toList
    let tree ← askTree workingDirectory settings texts
    let (changed, outcome) := run settings workingDirectory tree texts
    writeTree tree changed
    IO.print (String.ofList outcome.printed)
    IO.eprint (String.ofList outcome.complained)
    match outcome.ending with
    | .exit status => return status.toUInt32
    | .broken why =>
      IO.eprint (String.ofList (why.message?.getD "a file holds bytes that are no text".toList ++
        ['\n']))
      return 1
