import SearchGateway.Gateway.Handler
import SearchGateway.Text.Base64

/-!
# Relaying to the engine

The engine that does the work gets each request as one document and its answer goes back as it is.
A body that is not UTF-8 is sent in base64, and the document says so.
-/

namespace SearchGateway.Gateway.Relay

/-- The body in the document, with the field that names its encoding. -/
def bodyFields (body : Bytes) : List (String × Json) :=
  match Text.Utf8.decode? body with
  | some text => [("body", .string text)]
  | none => [("body", .string (Text.Base64.encode body)), ("body_encoding", .string "base64")]

def identityField (identity : Security.Identity) : String × Json :=
  ("identity", .object [
    ("name", .string identity.name),
    ("roles", .ofTexts identity.roles)])

/-- The document for a request; what is absent has no field. -/
def document (r : OperationRequest) : Json :=
  .object <|
    [("action", .string r.action.token),
      ("method", .string r.method.name),
      ("params", .ofKeyed (r.parameters.map .string)),
      ("query", .ofKeyed (r.query.map .string))] ++
    (r.targets.map fun targets => ("targets", Json.ofTexts targets)).toList ++
    (r.identity.map identityField).toList ++
    bodyFields r.body

/-- The address of the engine without the slashes at its end. -/
def base (url : String) : String :=
  String.ofList (url.toList.reverse.dropWhile (· == '/')).reverse

/-- Where a request is sent. -/
def location (url : String) (action : Routing.Action) : String :=
  base url ++ "/_operations/" ++ action.token

/-- What an address asks of its host: the part after the authority, without a fragment. It begins
with a slash. -/
def requestTarget (afterAuthority : String) : String :=
  match afterAuthority.toList.takeWhile (· != '#') with
  | '/' :: rest => String.ofList ('/' :: rest)
  | sent => String.ofList ('/' :: sent)

/-- The first line that the engine gets; `path` is what its address has after the authority. -/
def requestLine (path : String) (action : Routing.Action) : String :=
  s!"POST {requestTarget (location path action)} HTTP/1.1"

/-- What comes of sending a request to the engine. -/
inductive Delivery where
  | unreachable (reason : String)
  | cut (status : Nat) (reason : String)
  | answered (status : Nat) (body : Bytes)
deriving DecidableEq, Repr

/-- The statuses whose responses have no body. -/
def bodilessStatuses : List Nat := [204, 304]

/-- The document that a body is; one that is no JSON becomes a text. -/
def bodyDocument (body : Bytes) : Option Json :=
  if body.isEmpty then none
  else
    match Json.read body with
    | .ok document => some document
    | .error _ => some (.string (Text.Utf8.decodeLossy body))

/-- The outcome of an answer. -/
def answerOutcome (status : Nat) (body : Bytes) : Outcome :=
  let document? := if status ∈ bodilessStatuses then none else bodyDocument body
  if 200 ≤ status ∧ status < 400 then .ok ⟨status, document?⟩
  else .error ⟨status, document?.getD .null⟩

def outcome : Delivery → Outcome
  | .unreachable reason => .error (.ofMessage 502 s!"upstream unavailable: {reason}")
  | .cut status reason =>
    if status ∈ bodilessStatuses then answerOutcome status []
    else .error (.ofMessage 502 s!"failed to read upstream response: {reason}")
  | .answered status body => answerOutcome status body

end SearchGateway.Gateway.Relay
