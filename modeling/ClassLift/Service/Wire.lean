/-
  The service over HTTP.

  1. **Endpoints.**  Four paths are known to the service, each with one method: a health check, and
     three requests that carry a JSON document.  Four more lead to pages on the service itself.  An
     unknown path and a wrong method are answered before the document is looked at; a path that is
     known but for slashes at its end is redirected, whatever the method.

  2. **Documents.**  The document of a request must be an object with the fields of the endpoint.
     All faulty fields are reported together, in the order in which the endpoint lists its fields.

  3. **Sending.**  A reply is a JSON document in UTF-8.  One that shows half a surrogate pair cannot
     be encoded, and neither can the report of a faulty field whose value holds NaN or an infinity,
     because the report repeats the value.  The work is done by then: such a request fails and may
     have changed a file.

  Headers are left out on both sides, and with them whatever is asked and told in headers alone: leave
  for another site to send a request is asked for and given that way, before the request is sent.
-/
import ClassLift.Field
import ClassLift.Json.Encoding
import ClassLift.Service.Framework
import ClassLift.Service.Target
import ClassLift.Text.Uppercase

namespace ClassLift.Service

/-! ## Requests and responses -/

inductive Payload
  | none
  /-- A document, already read. -/
  | document (value : Json)
  /-- The text of a document. -/
  | text (raw : Text)

/-- A request as it comes in. -/
structure Incoming where
  method : Text
  target : Text
  payload : Payload

/-- A response as it goes out. -/
inductive Response
  | replied (reply : Reply)
  /-- Refused for faulty fields. -/
  | invalid (errors : List FieldError)
  /-- A status and nothing else that is told here. -/
  | bare (status : Nat)

namespace Response

def status : Response → Nat
  | replied reply => reply.status
  | invalid _ => 422
  | bare status => status

def document? : Response → Option Json
  | replied reply => some reply.document
  | _ => none

/-- A response, if it can be sent. -/
def sent : Response → Except Failure Response
  | replied reply =>
    if reply.document.isSendable then .ok (replied reply)
    else if reply.document.isWhole then .error .noNumeral
    else .error .halfPair
  | invalid errors =>
    if errors.any fun e => !e.given.isFinite then .error .notFinite
    else if errors.any fun e => !e.given.isWhole then .error .halfPair
    else .ok (invalid errors)
  | bare status => .ok (bare status)

end Response

/-! ## Reading the fields -/

def fieldLocation (field : Text) : List FieldStep := [.name "body".toList, .name field]

/-- A field that must be there; the report of its absence repeats the whole document. -/
def required {α : Type} (members : Members) (field : String) (read : Json → Except FieldFault α) :
    Checked α :=
  match Json.member? field.toList members with
  | none => Checked.placed (fieldLocation field.toList) (.object members) (.error .missing)
  | some value => Checked.placed (fieldLocation field.toList) value (read value)

/-- A field that may be absent, and then has a default. -/
def defaulted {α : Type} (members : Members) (field : String) (read : Json → Except FieldFault α)
    (default : α) : Checked α :=
  match Json.member? field.toList members with
  | none => .ok default
  | some value => Checked.placed (fieldLocation field.toList) value (read value)

/-- A value that may be null. -/
def nullable {α : Type} (read : Json → Except FieldFault α) :
    Json → Except FieldFault (Option α)
  | .null => .ok none
  | value => (read value).map some

/-- A field that may be absent or null. -/
def optional {α : Type} (members : Members) (field : String) (read : Json → Except FieldFault α) :
    Checked (Option α) :=
  defaulted members field (nullable read) none

def readSuggest (members : Members) : Checked Query :=
  (Checked.ok Query.suggest)
    |>.apply (required members "text" readString)
    |>.apply (optional members "threshold" (readIntegerFrom 1))

def readCategorize (members : Members) : Checked Query :=
  (Checked.ok Query.categorize).apply (required members "classes" readString)

def readExtract (members : Members) : Checked Query :=
  (Checked.ok fun text line name grouping preserving threshold force target write =>
      Query.extract text ⟨line, some name, grouping, preserving, threshold, force⟩ target write)
    |>.apply (required members "text" readString)
    |>.apply (required members "line" (readIntegerFrom 0))
    |>.apply (required members "class_name" readNonemptyText)
    |>.apply (optional members "group_by_category" readBoolean)
    |>.apply (optional members "preserve_state_variants" readBoolean)
    |>.apply (optional members "threshold" (readIntegerFrom 1))
    |>.apply (defaulted members "force" readBoolean false)
    |>.apply (optional members "target_css_file" readString)
    |>.apply (defaulted members "write" readBoolean false)

/-! ## Reading the document -/

def documentLocation : List FieldStep := [.name "body".toList]

/-- A document as a query. -/
def readDocument (read : Members → Checked Query) : Option Json → Checked Query
  | none => Checked.placed documentLocation .null (.error .missing)
  | some (.object members) => read members
  | some value => Checked.placed documentLocation value (.error .notRecord)

/-- The response to a document that cannot be read at all. -/
def unreadable : Response := .replied (.refused 400 "There was an error parsing the body".toList)

/-- The document of a payload: nothing, a value, or the response that refuses it. -/
def Payload.read : Payload → Except Response (Option Json)
  | none => .ok .none
  | document value => .ok (some value)
  | text [] => .ok .none
  | text raw =>
    match Json.documentText? raw with
    | .none => .error unreadable
    | some t =>
      match Json.read t with
      | .ok value => .ok (some value)
      | .error (.unexpected position) =>
        .error (.invalid [⟨documentLocation ++ [.position position], .notJson, .null⟩])
      | .error .tooManyDigits | .error .tooDeep => .error unreadable

/-- The members with another value under a name. -/
def setMember (name : Text) (value : Json) (members : Members) : Members :=
  (members.filter fun m => m.1 != JsonString.ofText name) ++ [(JsonString.ofText name, value)]

/-- The payload with its member `write` set to false. -/
def Payload.withoutWriting (p : Payload) : Payload :=
  match p.read with
  | .ok (some (.object members)) =>
    .document (.object (setMember "write".toList (.bool false) members))
  | _ => p

/-! ## Endpoints -/

inductive Destination
  | health
  /-- An endpoint that reads a document. -/
  | reader (read : Members → Checked Query)
  | page

/-- A path, the methods it takes, and what it leads to. -/
structure Endpoint where
  path : Text
  methods : List Text
  leadsTo : Destination

def endpoints : List Endpoint :=
  [⟨"/openapi.json".toList, ["GET".toList, "HEAD".toList], .page⟩,
    ⟨"/docs".toList, ["GET".toList, "HEAD".toList], .page⟩,
    ⟨"/docs/oauth2-redirect".toList, ["GET".toList, "HEAD".toList], .page⟩,
    ⟨"/redoc".toList, ["GET".toList, "HEAD".toList], .page⟩,
    ⟨"/tailwind/suggestions".toList, ["POST".toList], .reader readSuggest⟩,
    ⟨"/tailwind/categorize".toList, ["POST".toList], .reader readCategorize⟩,
    ⟨extractPath, ["POST".toList], .reader readExtract⟩,
    ⟨"/health".toList, ["GET".toList], .health⟩]

/-- The path that is looked up: a line feed at the end is overlooked. -/
def lookedUpPath (path : Text) : Text :=
  if path.getLast? = some '\n' then path.dropLast else path

def endpoint? (path : Text) : Option Endpoint :=
  endpoints.find? fun e => lookedUpPath path == e.path

/-- The response to a path that no endpoint has. -/
def strayResponse (path : Text) : Response :=
  if ['/'].isSuffixOf path && (endpoint? (withoutFinalSlashes path)).isSome then .bare 307
  else .replied (.refused 404 "Not Found".toList)

/-- The query that a request to an endpoint stands for, or the response to it. -/
def Destination.read (payload : Payload) : Destination → Except Response Query
  | health => .ok .health
  | page => .error (.bare 200)
  | reader read =>
    match payload.read with
    | .error response => .error response
    | .ok value =>
      match readDocument read value with
      | .ok query => .ok query
      | .faulty errors => .error (.invalid errors)

/-- The query that a request stands for, or the response to it. -/
def readQuery (method path : Text) (payload : Payload) : Except Response Query :=
  match endpoint? path with
  | none => .error (strayResponse path)
  | some e =>
    if e.methods.contains method then e.leadsTo.read payload
    else .error (.replied (.refused 405 "Method Not Allowed".toList))

/-! ## The framework -/

/-- Requests over HTTP.  Methods are known in any case, and the answer to HEAD is never more than its
    status. -/
def http : Framework Incoming Response where
  path i := lookedUpPath (targetPath i.target)
  receive i :=
    let method := upper i.method
    match readQuery method (targetPath i.target) i.payload with
    | .ok q => .query q
    | .error response => .answered (response.sent.map fun response =>
        if method == "HEAD".toList then .bare response.status else response)
  send _ reply := Response.sent (.replied reply)
  status := Response.status
  document? := Response.document?
  withoutWriting i := { i with payload := i.payload.withoutWriting }

end ClassLift.Service
