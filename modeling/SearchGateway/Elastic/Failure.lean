import SearchGateway.Http.Message

/-!
# Failures in the Elasticsearch dialect

Clients expect an envelope with the type and the reason of a failure, its root cause and its
status. The root cause repeats the failure itself.
-/

namespace SearchGateway.Elastic

/-- A failure that the dialect has an envelope for. -/
inductive Failure where
  | parse (reason : String)
  | illegalArgument (reason : String)
  | validation (reason : String)
  | mediaType (reason : String)
  | invalidIndexName (index reason : String)
  | indexNotFound (index : String)
  | unauthenticated (reason : String)
  | forbidden (reason : String)
deriving DecidableEq, Repr

namespace Failure

/-- The type that clients tell failures apart by. -/
def type : Failure → String
  | .parse _ => "parse_exception"
  | .illegalArgument _ => "illegal_argument_exception"
  | .validation _ => "action_request_validation_exception"
  | .mediaType _ => "media_type_header_exception"
  | .invalidIndexName _ _ => "invalid_index_name_exception"
  | .indexNotFound _ => "index_not_found_exception"
  | .unauthenticated _ => "security_exception"
  | .forbidden _ => "security_exception"

def reason : Failure → String
  | .parse reason => reason
  | .illegalArgument reason => reason
  | .validation reason => s!"Validation Failed: 1: {reason};"
  | .mediaType reason => reason
  | .invalidIndexName index reason => s!"Invalid index name [{index}], {reason}"
  | .indexNotFound index => s!"no such index [{index}]"
  | .unauthenticated reason => reason
  | .forbidden reason => reason

def status : Failure → Nat
  | .parse _ => 400
  | .illegalArgument _ => 400
  | .validation _ => 400
  | .mediaType _ => 400
  | .invalidIndexName _ _ => 400
  | .indexNotFound _ => 404
  | .unauthenticated _ => 401
  | .forbidden _ => 403

def index? : Failure → Option String
  | .invalidIndexName index _ => some index
  | .indexNotFound index => some index
  | _ => none

def summary (f : Failure) : List (String × Json) :=
  [("type", .string f.type), ("reason", .string f.reason)] ++
    (f.index?.map fun index => ("index", Json.string index)).toList

def envelope (f : Failure) : Json :=
  .object [
    ("error", .object (("root_cause", .array [.object f.summary]) :: f.summary)),
    ("status", .int f.status)]

def response (f : Failure) : Http.Response :=
  .ofJson f.status f.envelope

end Failure

end SearchGateway.Elastic
