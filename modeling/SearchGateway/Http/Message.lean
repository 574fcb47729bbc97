import SearchGateway.Http.Body
import SearchGateway.Http.Headers
import SearchGateway.Http.Method
import SearchGateway.Json.Writer

/-!
# Requests and responses
-/

namespace SearchGateway.Http

/-- A request; the path is kept as it was sent. -/
structure Request where
  method : Method
  path : String
  query : String
  headers : Headers
  body : Body
deriving DecidableEq, Repr

/-- The path and the query of a request target; a fragment is no part of it. -/
def splitTarget (target : String) : String × String :=
  let sent := target.toList.takeWhile (· != '#')
  (String.ofList (sent.takeWhile (· != '?')), String.ofList ((sent.dropWhile (· != '?')).drop 1))

/-- A response with its whole body. -/
structure Response where
  status : Nat
  headers : Headers
  body : Bytes
deriving DecidableEq, Repr

namespace Response

def ofStatus (status : Nat) : Response := ⟨status, [], []⟩

def ofJson (status : Nat) (document : Json) : Response where
  status
  headers := [("content-type", Text.Utf8.encode "application/json")]
  body := Text.Utf8.encode document.compact

/-- A response that names another place. -/
def redirect (status : Nat) (location : String) : Response :=
  ⟨status, [("location", Text.Utf8.encode location)], []⟩

def withHeader (response : Response) (name value : String) : Response :=
  { response with headers := response.headers.set name (Text.Utf8.encode value) }

/-- States the length of the body, unless a length has been stated already. -/
def withLength (response : Response) : Response :=
  if (response.headers.first? "content-length").isSome then response
  else response.withHeader "content-length" (toString response.body.length)

def withoutBody (response : Response) : Response :=
  { response with body := [] }

end Response

end SearchGateway.Http
