/-!
# Request methods
-/

namespace SearchGateway.Http

/-- A request method, named by its token. -/
structure Method where
  name : String
deriving DecidableEq, Repr

namespace Method

def get : Method := ⟨"GET"⟩
def head : Method := ⟨"HEAD"⟩
def post : Method := ⟨"POST"⟩
def put : Method := ⟨"PUT"⟩
def delete : Method := ⟨"DELETE"⟩
def options : Method := ⟨"OPTIONS"⟩
def patch : Method := ⟨"PATCH"⟩
def trace : Method := ⟨"TRACE"⟩

/-- The methods that a route can be declared for. -/
def routable : List Method := [get, head, delete, options, patch, post, put, trace]

end Method

end SearchGateway.Http
