/-
  Running a command.

  1. `scan` lists the lines of a file with long class lists.

  2. `extract` plans an extraction, shows the rule and the changed line, and with `--write` appends
     the rule to the stylesheet and THEN stores the changed document, both from the text that was
     read at the start.  The rule is appended first, because that may fail and storing a file that
     was just read does not: a run that ends with an error has changed no file.

  3. A run answers with what it printed on both channels, how it ended, and the tree it leaves.
     Whatever went wrong in the user's domain is one line of the journal and status 1; wrong
     arguments are a complaint and status 2.  Bytes that are no text, a path with the character NUL,
     a log level that is not known, a number without a numeral and a hollow value end the run
     abruptly, with what it had printed until then.

  4. A hollow value ends the run where the value is NEEDED and not before: a hollow line once the
     file is read, a hollow threshold at the first class list, a hollow stylesheet when the rule is
     to be written.  A hollow name is as good as an empty one.
-/
import ClassLift.CommandLine.Arguments
import ClassLift.Journal

namespace ClassLift.CommandLine

/-! ## Outcomes -/

inductive Breakdown
  | notText
  | nulCharacter
  | unknownLevel (name : Text)
  /-- A number would have to be shown that has no numeral. -/
  | noNumeral
  | hollowLine
  | hollowThreshold
  | hollowStylesheet
  deriving DecidableEq, Repr

/-- What a breakdown says, if it says anything. -/
def Breakdown.message? : Breakdown → Option Text
  | notText => none
  | nulCharacter => some nulMessage
  | unknownLevel name => some ("Unknown level: ".toList ++ quoted name)
  | noNumeral => some noNumeralMessage
  | hollowLine => some "unsupported operand type(s) for -: 'list' and 'int'".toList
  | hollowThreshold =>
    some "'>=' not supported between instances of 'int' and 'list'".toList
  | hollowStylesheet =>
    some "unsupported operand type(s) for /: 'PosixPath' and 'list'".toList

inductive Ending
  | exit (status : Nat)
  | broken (why : Breakdown)
  deriving DecidableEq, Repr

structure Outcome where
  printed : Text
  complained : Text
  ending : Ending
  deriving DecidableEq, Repr

/-- What a run depends on besides its arguments. -/
structure Surroundings where
  settings : Settings
  workingDirectory : Place
  /-- The least weight of the events that are shown. -/
  journalFrom : Nat

namespace Surroundings

def journal (s : Surroundings) (events : List Event) : Text := journalLines s.journalFrom events

/-- The outcome of a run that fails after the given prints and events. -/
def fail (s : Surroundings) (printed : Text) (events : List Event) (message : Text) : Outcome :=
  ⟨printed, s.journal (events ++ [.failed message]), .exit 1⟩

def failPlan (s : Surroundings) (events : List Event) : PlanError → Outcome
  | .noAttributeFar _ | .belowThresholdFar .. => ⟨[], s.journal events, .broken .noNumeral⟩
  | e => s.fail [] events e.message

/-- The outcome of a run whose stylesheet cannot be written. -/
def failStylesheet (s : Surroundings) (printed : Text) (events : List Event) :
    StylesheetError → Outcome
  | .rejected target _ why => s.fail printed events (rejectionMessage target why)
  | .system e => s.fail printed events e.message
  | .notText => ⟨printed, s.journal events, .broken .notText⟩
  | .nulCharacter => ⟨printed, s.journal events, .broken .nulCharacter⟩

end Surroundings

/-! ## Commands -/

/-- A file named on the command line, read as text. -/
def readSource (s : Surroundings) (t : FileTree) (file : Path) : Except Outcome (Place × Text) :=
  if file.parts.any fun part => part.contains '\x00' then
    .error ⟨[], [], .broken .nulCharacter⟩
  else
    match t.readFile s.workingDirectory file with
    | .error e => .error (s.fail [] [] e.message)
    | .ok (_, none) => .error ⟨[], [], .broken .notText⟩
    | .ok (place, some text) => .ok (place, text)

/-- The line of a report for one suggestion. -/
def reportLine (file : Path) (suggestion : Suggestion) : Text :=
  let groups := suggestion.counts.map fun c => c.1.title ++ ": ".toList ++ decimal c.2
  file.toText ++ ':' :: suggestion.describe ++ " (".toList ++ joinWith ", ".toList groups ++
    ")\n".toList

/-- Lists the long class lists of a file (`scan`). -/
def runScan (s : Surroundings) (t : FileTree) (file : Path) (threshold : Supplied Int) : Outcome :=
  match readSource s t file with
  | .error outcome => outcome
  | .ok (_, text) =>
    if threshold == .hollow && (lines text).any fun line => (findAttribute line).isSome then
      ⟨[], [], .broken .hollowThreshold⟩
    else
      let least := s.settings.thresholdOr threshold.value?
      match suggestions text least with
      | .error (.noNumeral _) => ⟨[], [], .broken .noNumeral⟩
      | .ok found =>
        ⟨found.flatMap (reportLine file), s.journal (scanningEvents text least found), .exit 0⟩

/-- The line that shows a changed document where the window of the attribute starts. -/
def changedLine (file : Path) (index : Nat) (updated : Text) : Text :=
  let line := (lines updated).getD index []
  file.toText ++ ':' :: decimal (index + 1) ++ ": ".toList ++ strip line ++ ['\n']

inductive WriteError
  | stylesheet (e : StylesheetError)
  | hollow

/-- Appends the rule of a plan to a stylesheet. -/
def writeRule (s : Surroundings) (t : FileTree) (stylesheet : Supplied Text) (css : Text) :
    FileTree × Except WriteError Place :=
  let append (root : Place) (target : Text) : FileTree × Except WriteError Place :=
    let (t, result) := appendRule t root target css
    (t, result.mapError .stylesheet)
  match workspacePlace s.workingDirectory s.settings.workspaceRoot with
  | .error e => (t, .error (.stylesheet e))
  | .ok root =>
    match stylesheet with
    | .nothing => append root s.settings.targetStylesheet
    | .value target => append root target
    | .hollow => (t, .error .hollow)

/-- The tree and the outcome after the extraction that a request asks of a text (`extract`). -/
def extractFrom (s : Surroundings) (t : FileTree) (file : Path) (source : Place) (text : Text)
    (r : Request) (write : Bool) (stylesheet : Supplied Text) : FileTree × Outcome :=
  let events := planningEvents s.settings text r
  match plan s.settings text r with
  | .error e => (t, s.failPlan events e)
  | .ok p =>
    let updated := p.apply text
    let shown := p.css ++ changedLine file p.location.lineIndex updated
    let summary := p.describe ++ ['\n']
    if !write then (t, ⟨shown, s.journal events ++ summary, .exit 0⟩)
    else
      match writeRule s t stylesheet p.css with
      | (t, .error (.stylesheet e)) =>
        (t, s.failStylesheet shown (events ++ appendingEvents p.css (.error e)) e)
      | (t, .error .hollow) => (t, ⟨shown, s.journal events, .broken .hollowStylesheet⟩)
      | (t, .ok place) =>
        (t.set source (.file (utf8 updated)),
          ⟨shown ++ "Wrote .".toList ++ p.className ++ " to ".toList ++ placeText place ++ ['\n'],
            s.journal (events ++ appendingEvents p.css (.ok place)) ++ summary, .exit 0⟩)

/-- The tree and the outcome after an extraction; a request is made once the line is known. -/
def runExtract (s : Surroundings) (t : FileTree) (file : Path) (line : Option Int)
    (request : Int → Request) (write : Bool) (stylesheet : Supplied Text) : FileTree × Outcome :=
  match readSource s t file with
  | .error outcome => (t, outcome)
  | .ok (source, text) =>
    match line with
    | none => (t, ⟨[], [], .broken .hollowLine⟩)
    | some line => extractFrom s t file source text (request line) write stylesheet

def runCommand (s : Surroundings) (t : FileTree) : Command → FileTree × Outcome
  | .scan file threshold => (t, runScan s t (Path.ofText file) threshold)
  | .extract file line name flat preserveStates force write stylesheet =>
    let request (line : Int) : Request :=
      { line := line - 1
        name := name
        grouping := if flat then some false else none
        preserving := if preserveStates then some true else none
        threshold := none
        force := force }
    runExtract s t (Path.ofText file) line request write stylesheet

/-- The tree and the outcome after a run of the program (`main`). -/
def run (settings : Settings) (workingDirectory : Place) (t : FileTree) (args : List Text) :
    FileTree × Outcome :=
  match thresholdOfName? settings.logLevel with
  | none => (t, ⟨[], [], .broken (.unknownLevel (upper settings.logLevel))⟩)
  | some journalFrom =>
    match readArgv args with
    | .error (.help speaker) => (t, ⟨speaker.help, [], .exit 0⟩)
    | .error (.misuse speaker message) => (t, ⟨[], speaker.complaint message, .exit 2⟩)
    | .ok command => runCommand ⟨settings, workingDirectory, journalFrom⟩ t command

end ClassLift.CommandLine
