import SearchGateway.Http.Message
import SearchGateway.Http.Status
import SearchGateway.Json.Reader
import SearchGateway.Registry.Target
import SearchGateway.Routing.Action
import SearchGateway.Security.Directory

/-!
# The handler

Behind the gateway a handler does the work. It gets requests that no longer show the dialect they
came in, and what it answers goes back to the client as it is.
-/

namespace SearchGateway.Gateway

/-- What the handler is asked. -/
structure OperationRequest where
  action : Routing.Action
  method : Http.Method
  parameters : Keyed String
  query : Keyed String
  targets : Option (List String)
  identity : Option Security.Identity
  body : Bytes
deriving DecidableEq

/-- What the handler answers. -/
structure OperationResponse where
  status : Nat
  body : Option Json

/-- A failure of the handler. -/
structure HandlerError where
  status : Nat
  body : Json

/-- A failure of the handler with a message for the client. -/
def HandlerError.ofMessage (status : Nat) (text : String) : HandlerError :=
  ⟨status, .object [("error", .string text)]⟩

def HandlerError.message (e : HandlerError) : String :=
  s!"handler failed with status {Http.statusText e.status}"

/-- How the handler ends. -/
abbrev Outcome := Except HandlerError OperationResponse

def respondWith : Outcome → Http.Response
  | .ok ⟨status, some body⟩ => .ofJson status body
  | .ok ⟨status, none⟩ => .ofStatus status
  | .error e => .ofJson e.status e.body

/-- How the handler ends, and after how many milliseconds. -/
structure Reply where
  delay : Nat
  outcome : Outcome

/-- What does the work. -/
abbrev Handler := OperationRequest → Reply

namespace OperationRequest

/-- The indices that a request is about: the resolved ones, or else the target as it is written. -/
def targetIndices (r : OperationRequest) : List String :=
  match r.targets with
  | some targets => targets
  | none =>
    match r.parameters.get? "target" with
    | some expression => Registry.tokens expression
    | none => []

def json (r : OperationRequest) : Except HandlerError Json :=
  (Json.read r.body).mapError fun e => .ofMessage 400 e.message

end OperationRequest

end SearchGateway.Gateway
