/-
  Extraction: the class list at a line of a document becomes a rule, and the class of that rule
  takes its place.

  1. The name is validated, whatever the document says.
  2. The attribute at the line is located; there must be one.
  3. Its class list must reach the threshold, unless the request forces it.
  4. Tokens with a state variant may stay in the markup.  What is left goes into the rule, and
     something must be left.

  The first step that fails decides the error.  Two errors show a number; where that number has no
  numeral, another error takes the place of each, and the user is told of the numeral only.

  A plan holds everything needed to carry the extraction out: the rule, the new value of the
  attribute, and where in the document it goes.  Every token of the old value ends up either in the
  rule or in the new value, with its repetitions.
-/
import ClassLift.Rule
import ClassLift.Document
import ClassLift.Suggestion
import ClassLift.Text.Numeral

namespace ClassLift

/-! ## What can go wrong -/

inductive PlanError
  | invalidName (name : Text) (fault : NameFault)
  /-- Neither the line nor a window around it holds an attribute. -/
  | noAttribute (line : Int)
  /-- There is no attribute either, and the number of the line has no numeral. -/
  | noAttributeFar (line : Int)
  | belowThreshold (count : Nat) (threshold : Int)
  /-- There are too few classes as well, and the threshold has no numeral. -/
  | belowThresholdFar (count : Nat) (threshold : Int)
  /-- Every class carries a state variant and those stay where they are. -/
  | nothingLeft
  deriving DecidableEq, Repr

/-- What the user is told; lines are counted from one here.  Where the number in a text has no
    numeral, all that is told is this. -/
def PlanError.message : PlanError → Text
  | invalidName _ fault => fault.message
  | noAttribute line =>
    "No class attribute found on line ".toList ++ decimal (line + 1) ++
      ". Place the cursor on a line with class=\"...\" or className=\"...\".".toList
  | belowThreshold count threshold =>
    "Only ".toList ++ decimal count ++ " class(es) found (threshold: ".toList ++
      decimal threshold ++ ")".toList
  | noAttributeFar _ | belowThresholdFar .. => noNumeralMessage
  | nothingLeft => "Every class carries a state variant; nothing left to extract".toList

/-! ## Requests and plans -/

/-- What is asked for; a choice that is left open is settled by the settings. -/
structure Request where
  /-- The line, counted from zero. -/
  line : Int
  name : Option Text
  grouping : Option Bool := none
  preserving : Option Bool := none
  threshold : Option Int := none
  force : Bool := false
  deriving DecidableEq, Repr

/-- An extraction ready to be carried out. -/
structure Plan where
  location : Location
  className : Text
  tokens : List Text
  extracted : List Text
  preserved : List Text
  buckets : Buckets Category
  css : Text
  grouped : Bool
  belowThreshold : Bool

namespace Plan

/-- The new value of the attribute: the class, and the tokens that stay. -/
def replacementValue (p : Plan) : Text := joinSpaced (p.className :: p.preserved)

def apply (p : Plan) (text : Text) : Text := p.location.replaceIn text p.replacementValue

/-- One line on what was done. -/
def describe (p : Plan) : Text :=
  "Extracted ".toList ++ decimal p.extracted.length ++ " Tailwind classes into .".toList ++
    p.className ++
    match p.preserved with
    | [] => []
    | kept => " (".toList ++ decimal kept.length ++ " state variants kept inline)".toList

end Plan

/-! ## Planning -/

/-- The tokens that go into the rule. -/
def extractedTokens (preserving : Bool) (tokens : List Text) : List Text :=
  if preserving then tokens.filter fun t => !hasStateVariant t else tokens

/-- The tokens that stay in the markup. -/
def preservedTokens (preserving : Bool) (tokens : List Text) : List Text :=
  if preserving then tokens.filter hasStateVariant else []

/-- The error for a line without an attribute, in which the number of the line is shown. -/
def noAttributeAt (line : Int) : PlanError :=
  if HasNumeral (line + 1) then .noAttribute line else .noAttributeFar line

/-- The error for too few classes, in which the threshold is shown. -/
def tooFewClasses (count : Nat) (threshold : Int) : PlanError :=
  if HasNumeral threshold then .belowThreshold count threshold
  else .belowThresholdFar count threshold

/-- The plan for an attribute that has been located, under a validated name. -/
def planAt (s : Settings) (r : Request) (name : Text) (location : Location) :
    Except PlanError Plan :=
  let threshold := s.thresholdOr r.threshold
  let grouping := r.grouping.getD s.groupByCategory
  let preserving := r.preserving.getD s.preserveStateVariants
  let tokens := tokenize location.found.value
  let extracted := extractedTokens preserving tokens
  if !isLong tokens threshold && !r.force then .error (tooFewClasses tokens.length threshold)
  else if extracted.isEmpty then .error .nothingLeft
  else
    let buckets := categorize extracted
    .ok {
      location := location
      className := name
      tokens := tokens
      extracted := extracted
      preserved := preservedTokens preserving tokens
      buckets := buckets
      css := rule name extracted buckets.titled grouping
      grouped := shouldGroup buckets.titled grouping
      belowThreshold := !isLong tokens threshold }

/-- The plan for a request (`plan_extraction`). -/
def plan (s : Settings) (text : Text) (r : Request) : Except PlanError Plan :=
  match validateName r.name with
  | .error (name, fault) => .error (.invalidName name fault)
  | .ok name =>
    match locate text r.line s.lookaround.toNat with
    | none => .error (noAttributeAt r.line)
    | some location => planAt s r name location

end ClassLift
