/-
  The journal: what a run notes about its own steps.

  Every step may note an event.  An event has a level, a source and a text; a line of the journal
  shows the three, and a level set for the run decides which events become lines.  What is noted is
  told from the step's input and result, so the steps themselves know nothing of the journal.
-/
import ClassLift.Extraction
import ClassLift.Stylesheet
import ClassLift.Text.Uppercase

namespace ClassLift

/-! ## Levels -/

/-- How important an event is. -/
inductive Level
  | debug
  | info
  | warning
  | error
  deriving DecidableEq, Repr

namespace Level

def weight : Level → Nat
  | debug => 10
  | info => 20
  | warning => 30
  | error => 40

def label : Level → Text
  | debug => "DEBUG".toList
  | info => "INFO".toList
  | warning => "WARNING".toList
  | error => "ERROR".toList

end Level

/-- The least weight that is shown, by the name of a level in any case.  An unset level leaves the
    choice to the usual one, which is that of warnings. -/
def thresholdOfName? (name : Text) : Option Nat :=
  ([("CRITICAL", 50), ("FATAL", 50), ("ERROR", 40), ("WARN", 30), ("WARNING", 30), ("INFO", 20),
    ("DEBUG", 10), ("NOTSET", 30)].map fun entry : String × Nat => (entry.1.toList, entry.2)).lookup
    (upper name)

/-! ## Events -/

inductive Event
  /-- An attribute was put together from a window of lines. -/
  | windowFound (first last : Nat)
  /-- A class list is shorter than the threshold. -/
  | listTooShort (line count : Nat) (threshold : Int)
  | listsFound (count : Nat)
  | planned (summary : Text)
  | targetRejected (target : Text) (why : Rejection)
  | ruleAppended (characters : Nat) (stylesheet : Text)
  /-- The run ends with an error. -/
  | failed (message : Text)
  deriving DecidableEq, Repr

namespace Event

def level : Event → Level
  | windowFound .. | listTooShort .. | listsFound .. => .debug
  | planned .. | ruleAppended .. => .info
  | targetRejected .. => .warning
  | failed .. => .error

/-- The part of the program that an event comes from. -/
def source : Event → Text
  | windowFound .. => "shrink_tailwind.analyzers.attribute_locator".toList
  | listTooShort .. | listsFound .. | planned .. =>
    "shrink_tailwind.services.extraction_service".toList
  | targetRejected .. | ruleAppended .. => "shrink_tailwind.services.stylesheet_service".toList
  | failed .. => "shrink_tailwind.cli".toList

def text : Event → Text
  | windowFound first last =>
    "Recovered class attribute from lines ".toList ++ decimal first ++ '-' :: decimal last
  | listTooShort line count threshold =>
    "Line ".toList ++ decimal line ++ ": ".toList ++ decimal count ++
      " classes below threshold ".toList ++ decimal threshold
  | listsFound count => "Found ".toList ++ decimal count ++ " long class lists".toList
  | planned summary => summary
  | targetRejected target .atRoot =>
    "Rejected stylesheet path at the workspace root: ".toList ++ target
  | targetRejected target .outside =>
    "Rejected stylesheet path outside workspace: ".toList ++ target
  | targetRejected target .directory =>
    "Rejected stylesheet path that is a directory: ".toList ++ target
  | ruleAppended characters stylesheet =>
    "Appended ".toList ++ decimal characters ++ " characters to ".toList ++ stylesheet
  | failed message => message

/-- The line of an event. -/
def line (e : Event) : Text :=
  e.level.label ++ " [".toList ++ e.source ++ "] ".toList ++ e.text ++ ['\n']

end Event

/-- The lines of the events that weigh enough. -/
def journalLines (threshold : Nat) (events : List Event) : Text :=
  (events.filter fun e => threshold ≤ e.level.weight).flatMap Event.line

/-! ## What the steps note -/

/-- Locating notes a window, if one was needed. -/
def locatingEvents (requested : Int) (l : Location) : List Event :=
  if requested == l.lineIndex && !l.isMultiline then []
  else [.windowFound l.lineIndex (l.lineIndex + l.lineCount - 1)]

/-- Planning notes what locating notes, and the summary of the plan. -/
def planningEvents (s : Settings) (text : Text) (r : Request) : List Event :=
  match validateName r.name with
  | .error _ => []
  | .ok _ =>
    (match locate text r.line s.lookaround.toNat with
      | none => []
      | some location => locatingEvents r.line location) ++
    (match plan s text r with
      | .error _ => []
      | .ok p => [.planned p.describe])

/-- A scan to the last line notes each class list that is too short, and how many suggestions were
    found. -/
def scanningEvents (text : Text) (threshold : Int) (found : List Suggestion) : List Event :=
  ((lines text).zipIdx.filterMap fun numbered =>
    (findAttribute numbered.1).bind fun found =>
      let tokens := tokenize found.value
      if isLong tokens threshold then none
      else some (.listTooShort numbered.2 tokens.length threshold)) ++
  [.listsFound found.length]

/-- Appending notes a rejected target, or what was appended where. -/
def appendingEvents (css : Text) : Except StylesheetError Place → List Event
  | .error (.rejected target _ why) => [.targetRejected target why]
  | .error _ => []
  | .ok place => if css.isEmpty then [] else [.ruleAppended css.length (placeText place)]

end ClassLift
