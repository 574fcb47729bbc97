import SearchGateway.Elastic.Failure
import SearchGateway.Json.Reader
import SearchGateway.Text.Blank
import SearchGateway.Text.Split

/-!
# Rules for request bodies
-/

namespace SearchGateway.Elastic

/-- What the body of a request has to be. -/
inductive Payload where
  | ignored
  | jsonObject
  | requiredJsonObject
  | requiredFields (fields : List String)
  | ndjson (api : String)
deriving DecidableEq, Repr

/-- Why a body is refused. -/
inductive PayloadError where
  | missing
  | notObject
  | notJson (error : Json.SyntaxError)
  | missingField (field : String)
  | unterminated (api : String)
  | malformedLine (api : String) (line : Nat)
deriving DecidableEq, Repr

def PayloadError.failure : PayloadError → Failure
  | .missing => .parse "request body is required"
  | .notObject => .parse "request body must be a JSON object"
  | .notJson error => .parse s!"failed to parse request body: {error.message}"
  | .missingField field => .validation s!"{field} is missing"
  | .unterminated api =>
    .illegalArgument s!"The {api} request must be terminated by a newline [\\n]"
  | .malformedLine api line => .parse s!"malformed {api} line [{line}]"

def isBlankBody (body : Bytes) : Bool :=
  body.all Text.isBlankByte

def requireBody (body : Bytes) : Except PayloadError Unit :=
  if isBlankBody body then .error .missing else .ok ()

/-- The object that a body has to be. -/
def requireObject (body : Bytes) : Except PayloadError Json :=
  match Json.read body with
  | .error error => .error (.notJson error)
  | .ok (.object fields) => .ok (.object fields)
  | .ok _ => .error .notObject

/-- Whether a document has a field and it is not `null`. -/
def hasField (document : Json) (field : String) : Bool :=
  match document.field? field with
  | some value => !value.isNull
  | none => false

/-- The lines of a body; a body that ends in a newline has an empty last line. -/
def lines (body : Bytes) : List Bytes :=
  Text.split (· == 0x0A) body

/-- Whether a line may stand in a body of lines: it is blank or a document. -/
def acceptsLine (line : Bytes) : Bool :=
  isBlankBody line || (Json.read line).isOk

/-- Checks a body of one document a line. -/
def checkLines (api : String) (body : Bytes) : Except PayloadError Unit := do
  requireBody body
  if body.getLast? ≠ some 0x0A then throw (.unterminated api)
  -- The empty line behind the last newline is blank, so it needs no care.
  match (lines body).findIdx? (!acceptsLine ·) with
  | some index => throw (.malformedLine api (index + 1))
  | none => return ()

/-- Checks a body against its rule. -/
def Payload.check (rule : Payload) (body : Bytes) : Except PayloadError Unit :=
  match rule with
  | .ignored => .ok ()
  | .jsonObject => do
    if !isBlankBody body then let _ ← requireObject body
  | .requiredJsonObject => do
    requireBody body
    let _ ← requireObject body
  | .requiredFields fields => do
    requireBody body
    let document ← requireObject body
    match fields.find? (!hasField document ·) with
    | some field => throw (.missingField field)
    | none => return ()
  | .ndjson api => checkLines api body

end SearchGateway.Elastic
