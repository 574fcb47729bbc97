import SearchGateway.Http.Message
import SearchGateway.Text.Split

/-!
# Cross-origin requests

A browser asks which origins may read a response. Callers send credentials, so the answer names
one origin: the caller's own, if it is configured or any origin is.
-/

namespace SearchGateway.Http

/-- The origins that may read responses; `*` stands for any. -/
structure OriginPolicy where
  enabled : Bool := true
  origins : List String := ["*"]
deriving DecidableEq, Repr, Inhabited

namespace OriginPolicy

def anyOrigin : String := "*"

/-- The configured origins that a header can hold. -/
def usable (p : OriginPolicy) : List Bytes :=
  -- The star is no origin itself, and an entry that no header can hold is skipped.
  ((p.origins.filter (· ≠ anyOrigin)).map Text.Utf8.encode).filter (·.all isFieldByte)

/-- Whether any origin may read responses. -/
def allowsAny (p : OriginPolicy) : Bool :=
  p.origins.contains anyOrigin

/-- Whether origins are answered at all. -/
def isActive (p : OriginPolicy) : Bool :=
  p.enabled && (p.allowsAny || !p.usable.isEmpty)

/-- Whether an origin may read responses. -/
def allows (p : OriginPolicy) (origin : Bytes) : Bool :=
  p.isActive && (p.allowsAny || p.usable.contains origin)

/-- The request headers on which responses depend. -/
def varyValue : String :=
  "origin, access-control-request-method, access-control-request-headers"

/-- The methods that other origins may use. -/
def allowedMethods : List Method :=
  [.get, .post, .delete, .put, .head, .options]

/-- The header that names the origin of a request if it may read the response. -/
def originHeader (p : OriginPolicy) (request : Request) : Headers :=
  match request.headers.first? "origin" with
  | some origin => if p.allows origin then [("access-control-allow-origin", origin)] else []
  | none => []

def texts (fields : List (String × String)) : Headers :=
  fields.map fun field => (field.1, Text.Utf8.encode field.2)

/-- The headers that every response gets. -/
def sharedHeaders (p : OriginPolicy) (request : Request) : Headers :=
  texts [("vary", varyValue)] ++
    (if p.isActive then texts [("access-control-allow-credentials", "true")] else []) ++
    p.originHeader request

/-- The headers for a question of a browser about what it may send. -/
def preflightHeaders (p : OriginPolicy) : Headers :=
  if p.isActive then
    texts [
      ("access-control-allow-methods", Text.joinWith ',' (allowedMethods.map (·.name))),
      ("access-control-allow-headers", "origin,authorization,content-type"),
      ("access-control-max-age", "43200")]
  else []

/-- The headers for the response to a request. -/
def exposingHeaders (p : OriginPolicy) : Headers :=
  if p.isActive then texts [("access-control-expose-headers", "content-length")] else []

/-- The answer to a browser's question. -/
def preflight (p : OriginPolicy) (request : Request) : Response :=
  ⟨200, p.sharedHeaders request ++ p.preflightHeaders, []⟩

/-- A response with the headers that say who may read it. -/
def stamp (p : OriginPolicy) (request : Request) (response : Response) : Response :=
  { response with
    headers := response.headers ++ p.sharedHeaders request ++ p.exposingHeaders }

end OriginPolicy

end SearchGateway.Http
