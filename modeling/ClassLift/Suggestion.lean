/-
  Suggestions: the lines of a document whose class list is long enough to be worth a rule.

  1. **One line.**  Only an attribute that stands on one line is looked at, and one for each line.  A
     list from the threshold on is suggested; a shorter one is passed over with a note that shows the
     threshold.

  2. **The scan** goes from the top to the bottom.  It numbers the lines as it goes, so a document
     scanned in two halves gives the suggestions of the first and then those of the second with
     their line numbers moved on.

  3. **A note that cannot be written** ends the scan, although nobody may read it: a threshold without
     a numeral does no harm until a list below it turns up.
-/
import ClassLift.Buckets
import ClassLift.Attribute
import ClassLift.Settings
import ClassLift.Text.Numeral

namespace ClassLift

/-- A class list is long from the threshold on (`is_long_class_list`). -/
def isLong (tokens : List Text) (threshold : Int) : Bool := threshold ≤ tokens.length

/-- A long class list on a line of a document. -/
structure Suggestion where
  lineIndex : Nat
  value : Text
  tokenCount : Nat
  valueStart : Nat
  valueEnd : Nat
  counts : List (Category × Nat)
  deriving DecidableEq, Repr

/-- Why a scan ends before the last line. -/
inductive ScanError
  /-- A list is below a threshold that has no numeral. -/
  | noNumeral (threshold : Int)
  deriving DecidableEq, Repr

namespace Suggestion

/-- The line, counted from one, and the number of its classes. -/
def describe (s : Suggestion) : Text :=
  "line ".toList ++ decimal (s.lineIndex + 1) ++ ": ".toList ++ decimal s.tokenCount ++
    " classes".toList

def ofAttribute (index : Nat) (found : Attribute) : Suggestion where
  lineIndex := index
  value := found.value
  tokenCount := (tokenize found.value).length
  valueStart := found.valueStart
  valueEnd := found.valueEnd
  counts := (categorize (tokenize found.value)).counts

/-- The suggestion for one line, if there is one. -/
def onLine (threshold : Int) (index : Nat) (line : Text) : Except ScanError (Option Suggestion) :=
  match findAttribute line with
  | none => .ok none
  | some found =>
    if isLong (tokenize found.value) threshold then .ok (some (ofAttribute index found))
    else if HasNumeral threshold then .ok none
    else .error (.noNumeral threshold)

end Suggestion

/-- The suggestions for some lines, the first of which has the given number. -/
def scanLines (threshold : Int) : (index : Nat) → List Text → Except ScanError (List Suggestion)
  | _, [] => .ok []
  | index, line :: rest => do
    let here ← Suggestion.onLine threshold index line
    let below ← scanLines threshold (index + 1) rest
    return here.toList ++ below

/-- The suggestions for a document, from the top (`find_suggestions`). -/
def suggestions (text : Text) (threshold : Int) : Except ScanError (List Suggestion) :=
  scanLines threshold 0 (lines text)

/-- The threshold of a request, or the one in the settings. -/
def Settings.thresholdOr (s : Settings) (requested : Option Int) : Int :=
  requested.getD s.classThreshold

end ClassLift
