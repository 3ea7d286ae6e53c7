/-
  The service: extraction for programs that ask over the network.

  1. **Queries.**  There are four endpoints, and a query is what one of them is asked for: a health
     check, suggestions, categories, an extraction.

  2. **Replies.**  What the user can mend (no attribute there, too few classes, a bad name, a
     rejected stylesheet) is a reply with its own status.  What the file system refuses is not a
     reply at all.  Only an extraction that asks for it changes a file, and it plans first:
     whatever goes wrong before the rule is appended leaves the tree as it was.

  3. **Strings** need not be texts: one may hold half a surrogate pair.  What is made of it is a
     string that may hold it too.  Such a rule cannot be written, which is noticed when the
     stylesheet is open already, and what path such a target is, is for the system to say.

  How a request becomes a query, and a reply something that can be sent, is no matter of the service
  (see `Service.Framework`).
-/
import ClassLift.Extraction
import ClassLift.Json
import ClassLift.Stylesheet

namespace ClassLift.Service

/-! ## Queries -/

abbrev Members := List (JsonString × Json)

/-- What the endpoints can be asked for. -/
inductive Query
  | health
  | suggest (text : JsonString) (threshold : Option Int)
  | categorize (classes : JsonString)
  | extract (text : JsonString) (request : Request) (target : Option JsonString) (write : Bool)
  deriving DecidableEq, Repr

def extractPath : Text := "/tailwind/extract".toList

/-- The path of the endpoint that answers a query. -/
def Query.path : Query → Text
  | health => "/health".toList
  | suggest .. => "/tailwind/suggestions".toList
  | categorize _ => "/tailwind/categorize".toList
  | extract .. => extractPath

/-! ## Replies -/

/-- The answer to a query, with the string it was made from. -/
inductive Reply
  | healthy
  | suggested (text : JsonString) (items : List Suggestion)
  | categorized (classes : JsonString) (tokens : List Text) (groups : List (Category × List Text))
  | extracted (text : JsonString) (plan : Plan) (stylesheet : Option JsonString)
  | refused (status : Nat) (detail : Text)

/-- Why a query gets no reply, or a reply is not sent. -/
inductive Failure
  | stylesheet (e : StylesheetError)
  /-- A number would have to be shown that has no numeral. -/
  | noNumeral
  /-- What is sent would hold NaN or an infinity. -/
  | notFinite
  /-- Half a surrogate pair would have to be encoded. -/
  | halfPair
  deriving DecidableEq, Repr

/-- What a failure says, if it says anything. -/
def Failure.message? : Failure → Option Text
  | stylesheet e => e.message?
  | noNumeral => some noNumeralMessage
  | notFinite => some "Out of range float values are not JSON compliant".toList
  | halfPair => none

/-! ## Replies as documents -/

def member (name : String) (value : Json) : JsonString × Json := (.ofText name.toList, value)

def plainText (t : Text) : Json := .string (.ofText t)

/-- Some texts that were made from a string. -/
def madeTexts (s : JsonString) (ts : List Text) : Json := .array (ts.map fun t => .string (s.made t))

/-- A suggestion in the document of a reply. -/
def suggestionDocument (text : JsonString) (sg : Suggestion) : Json :=
  .object [
    member "line_index" (.int sg.lineIndex),
    member "value" (.string (text.made sg.value)),
    member "token_count" (.int sg.tokenCount),
    member "value_start" (.int sg.valueStart),
    member "value_end" (.int sg.valueEnd),
    member "categories" (.object (sg.counts.map fun c => (.ofText c.1.title, .int c.2)))]

/-- The members of the document that answers an extraction. -/
def extractedMembers (text : JsonString) (p : Plan) (stylesheet : Option JsonString) : Members :=
  [
    member "class_name" (plainText p.className),
    member "css" (.string (text.made p.css)),
    member "replacement_value" (.string (text.made p.replacementValue)),
    member "updated_text" (.string (text.made (p.apply text.text))),
    member "line_index" (.int p.location.lineIndex),
    member "extracted_tokens" (madeTexts text p.extracted),
    member "preserved_tokens" (madeTexts text p.preserved),
    member "grouped" (.bool p.grouped),
    member "below_threshold" (.bool p.belowThreshold),
    member "target_css_file" ((stylesheet.map Json.string).getD .null),
    member "message" (plainText p.describe)]

namespace Reply

def status : Reply → Nat
  | refused status _ => status
  | _ => 200

def document : Reply → Json
  | healthy => .object [member "status" (plainText "ok".toList)]
  | suggested text items =>
    .object [
      member "suggestions" (.array (items.map (suggestionDocument text))),
      member "total" (.int items.length)]
  | categorized classes tokens groups =>
    .object [
      member "tokens" (madeTexts classes tokens),
      member "groups" (.array (groups.map fun g => .object [
        member "category" (plainText g.1.title),
        member "tokens" (madeTexts classes g.2)]))]
  | extracted text p stylesheet => .object (extractedMembers text p stylesheet)
  | refused _ detail => .object [member "detail" (plainText detail)]

end Reply

/-! ## The system -/

/-- What the service takes from the system it runs on. -/
structure Host where
  workingDirectory : Place
  /-- The path that a string spells, unless the system has no bytes for it. -/
  path? : JsonString → Option Text
  /-- What the system calls a place to which a target led. -/
  told : (target : JsonString) → Place → JsonString

/-- Whether half a pair stands for a byte from 0x80 on.  Names that are no text are spelled so. -/
def isEscapedByte (half : Nat) : Bool := 0xDC80 ≤ half && half ≤ 0xDCFF

/-- A system whose names are bytes.  In the tree, a byte that is part of no character has the name
    that its half has in the text. -/
def byteHost (workingDirectory : Place) : Host where
  workingDirectory := workingDirectory
  path? s := if s.halves.all isEscapedByte then some s.text else none
  told target place := target.made (placeText place)

/-! ## Answering -/

/-- The buckets of a class list, in canonical order, as they are answered (`categorize_classes`). -/
def orderedGroups (buckets : Buckets Category) : List (Category × List Text) :=
  Category.all.filterMap fun c => (buckets.get? c).map fun tokens => (c, tokens)

/-- The reply to a request for which there is no plan. -/
def planErrorReply (e : PlanError) : Except Failure Reply :=
  match e with
  | .noAttribute _ => .ok (.refused 404 e.message)
  | .belowThreshold .. | .nothingLeft => .ok (.refused 409 e.message)
  | .invalidName .. => .ok (.refused 400 e.message)
  | .noAttributeFar _ | .belowThresholdFar .. => .error .noNumeral

/-- A string in quotes; a half is shown by its escape. -/
def quotedString (s : JsonString) : Text :=
  let quote := quoteFor s.text
  let inside := s.text.flatMap fun c =>
    match s.half? c with
    | some half => '\\' :: 'u' :: hexDigits 4 half
    | none => quotedChar quote c
  quote :: inside ++ [quote]

/-- Appends the rule that was made of a string to a stylesheet.  A rule with half a pair is noticed
    when the stylesheet is open already. -/
def storeRule (host : Host) (t : FileTree) (root : Place) (target text : JsonString) (css : Text) :
    FileTree × Except Failure Place :=
  match host.path? target with
  | none => (t, .error .halfPair)
  | some path =>
    if (text.made css).whole then
      let (t, result) := appendRule t root path css
      (t, result.mapError .stylesheet)
    else
      match resolveStylesheet t root path with
      | .error e => (t, .error (.stylesheet e))
      | .ok place =>
        match openStylesheet t place with
        | (t, .error e) => (t, .error (.stylesheet e))
        | (t, .ok _) => (t, .error .halfPair)

/-- The tree and the reply after an extraction (`extract_classes`). -/
def extract (host : Host) (s : Settings) (t : FileTree) (text : JsonString) (r : Request)
    (given : Option JsonString) (write : Bool) : FileTree × Except Failure Reply :=
  match plan s text.text r with
  | .error e => (t, planErrorReply e)
  | .ok p =>
    if !write then (t, .ok (.extracted text p none))
    else
      match workspacePlace host.workingDirectory s.workspaceRoot with
      | .error e => (t, .error (.stylesheet e))
      | .ok root =>
        let target := given.getD (.ofText s.targetStylesheet)
        match storeRule host t root target text p.css with
        | (t, .ok place) => (t, .ok (.extracted text p (some (host.told target place))))
        | (t, .error (.stylesheet (.rejected _ _ why))) =>
          (t, .ok (.refused 400 (rejectionOf (quotedString target) why)))
        | (t, .error e) => (t, .error e)

/-- The tree and the reply after a query. -/
def answer (host : Host) (s : Settings) (t : FileTree) :
    Query → FileTree × Except Failure Reply
  | .health => (t, .ok .healthy)
  | .suggest text threshold =>
    match suggestions text.text (s.thresholdOr threshold) with
    | .error (.noNumeral _) => (t, .error .noNumeral)
    | .ok items => (t, .ok (.suggested text items))
  | .categorize classes =>
    let tokens := tokenize classes.text
    (t, .ok (.categorized classes tokens (orderedGroups (ClassLift.categorize tokens))))
  | .extract text request target write => extract host s t text request target write

end ClassLift.Service
