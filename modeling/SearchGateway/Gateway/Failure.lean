import SearchGateway.Elastic.Failure
import SearchGateway.Gateway.Handler
import SearchGateway.Gateway.Metrics
import SearchGateway.Security.Guard

/-!
# Failed requests

What can go wrong with a request has one meaning and two looks: the native dialect has a short
document, the Elasticsearch dialect its envelope. A failure of the handler looks the same in both.
-/

namespace SearchGateway.Gateway

open Routing (Dialect)
open Security (Operation)

/-- Why a request fails. -/
inductive Failure where
  | unauthenticated (reason : String)
  | permissionDenied (operation : Operation) (user : String)
  | badRequest (failure : Elastic.Failure)
  | indexNotFound (expression : String)
  | payloadTooLarge (reason : String)
  | brokenBody (reason : String)
  | handler (error : HandlerError)

namespace Failure

def message : Failure → String
  | .unauthenticated reason => reason
  | .permissionDenied operation user =>
    s!"action [{operation.token}] is unauthorized for user [{user}]"
  | .badRequest failure => failure.reason
  | .indexNotFound expression => s!"no such index [{expression}]"
  | .payloadTooLarge reason => s!"request body too large: {reason}"
  | .brokenBody reason => s!"failed to read request body: {reason}"
  | .handler error => error.message

def status : Failure → Nat
  | .unauthenticated _ => 401
  | .permissionDenied _ _ => 403
  | .badRequest failure => failure.status
  | .indexNotFound _ => 404
  | .payloadTooLarge _ => 413
  | .brokenBody _ => 400
  | .handler error => error.status

/-- The failure that the Elasticsearch dialect has for it. -/
def toElastic : Failure → Elastic.Failure
  | .unauthenticated reason => .unauthenticated reason
  | .permissionDenied operation user =>
    .forbidden (Failure.permissionDenied operation user).message
  | .badRequest failure => failure
  | .indexNotFound expression => .indexNotFound expression
  | .payloadTooLarge reason => .parse reason
  | .brokenBody reason => .parse reason
  | .handler error => .illegalArgument error.message

/-- The header that asks for a credential. -/
def challenge : String := "Basic realm=\"sift\""

/-- The response in a dialect, without the header that asks for a credential. -/
def document (f : Failure) (dialect : Dialect) : Http.Response :=
  match dialect with
  | .native => .ofJson f.status (.object [("error", .string f.message)])
  | .elastic => f.toElastic.response

/-- The response in a dialect. -/
def render (f : Failure) (dialect : Dialect) : Http.Response :=
  match f with
  | .handler error => respondWith (.error error)
  | .unauthenticated _ => (f.document dialect).withHeader "www-authenticate" challenge
  | _ => f.document dialect

/-- The failure of a body that cannot be read. -/
def ofBodyError : Http.BodyError → Failure
  | .tooLong => .payloadTooLarge Http.BodyError.tooLong.message
  | .broken reason => .brokenBody reason

/-- The failure of a caller who is denied. -/
def ofDenial : Security.Denial → Failure
  | .noCredential => .unauthenticated "missing authentication credentials"
  | .unknownCredential => .unauthenticated "unable to authenticate with provided credentials"
  | .forbidden operation user => .permissionDenied operation user

/-- The failure of a target expression that a policy refuses. -/
def ofTargetError : Registry.TargetError → Failure
  | .nothingSelected expression => .indexNotFound expression
  | .wildcard token =>
    .badRequest (.invalidIndexName token "must not contain the following characters [*]")
  | .severalMembers name =>
    .badRequest (.illegalArgument (s!"no write index is defined for alias [{name}]. " ++
      "The write index may be explicitly disabled using is_write_index=false or the alias " ++
      "points to multiple indices without one being designated as a write index"))
  | .noTarget expression => .badRequest (.invalidIndexName expression "must not be empty")

end Failure

/-- How a denial is counted. -/
def denialKind : Security.Denial → DenialKind
  | .noCredential => .unauthenticated
  | .unknownCredential => .unauthenticated
  | .forbidden _ _ => .forbidden

end SearchGateway.Gateway
