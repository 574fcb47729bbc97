import SearchGateway.Gateway.Console
import SearchGateway.Routing.Pattern
import SearchGateway.Routing.Table

/-!
# Routers

A router serves the routes of a table. The path alone selects the pattern; the method is looked up
among the routes declared for it, where a route for `GET` also serves `HEAD`.
-/

namespace SearchGateway.Gateway

open Http (Method Request Response)
open Routing (Pattern Route Table)

/-- A route whose method no route can be mounted for. -/
structure UnsupportedMethod where
  method : Method
  path : String
deriving DecidableEq, Repr

def UnsupportedMethod.message (e : UnsupportedMethod) : String :=
  s!"Config error: unsupported method {e.method.name} for route {e.path}"

/-- Refuses a table with a method that no route can be mounted for. -/
def checkMethods (table : Table) : Except UnsupportedMethod Unit :=
  match table.routes.find? (·.method ∉ Method.routable) with
  | some route => .error ⟨route.method, route.path⟩
  | none => .ok ()

/-- The route that serves a method, of those declared for one path. -/
def routeFor? (routes : List Route) (method : Method) : Option Route :=
  (routes.find? (·.method = method)).or
    (if method = .head then routes.find? (·.method = .get) else none)

/-- The methods for the `allow` header, where `GET` stands for `HEAD` as well. -/
def allowValue (methods : List Method) : String :=
  Text.joinWith ',' (methods.flatMap fun method =>
    if method = .get then [method.name, Method.head.name] else [method.name])

/-- The parameters that a pattern takes from a path, unless one of them is no text. -/
def pathParameters (pattern : Pattern) (pieces : List String) : Option (Keyed String) :=
  -- Escapes are resolved after the path has been cut: an escaped slash stays in its piece.
  ((pattern.bind pieces).mapM fun ((name, raw) : String × String) =>
    (Text.Utf8.decode? (Http.percentDecode (Text.Utf8.encode raw))).map ((name, ·))).map
      Keyed.ofList

/-- What a pattern leads to. -/
inductive Site where
  | declared (path : String)
  | page (page : Console.Page)
  | metrics
deriving DecidableEq, Repr

namespace Site

def path : Site → String
  | .declared path => path
  | .page p => p.path
  | .metrics => "/metrics"

def methods (table : Table) : Site → List Method
  | .declared path => (table.forPath path).map (·.method)
  | .page _ => [.get]
  | .metrics => [.get]

end Site

def tableSites (table : Table) : List Site :=
  table.paths.map .declared

/-- The site for a path, with the pieces of the path. -/
def siteFor? (sites : List Site) (path : String) : Option (Site × List String) := do
  let pieces ← Routing.pieces? path
  let site ← Routing.select? (sites.map fun site => (Pattern.ofPath site.path, site)) pieces
  return (site, pieces)

/-- What is known when a request is served: the registry, the files, and what has been counted. -/
structure World where
  indices : Registry.Snapshot
  files : Files := []
  log : List Event := []

def metricsResponse (log : List Event) : Response where
  status := 200
  headers := [("content-type", Text.Utf8.encode "text/plain; charset=utf-8")]
  body := Text.Utf8.encode (exposition log)

/-- Serves a request at the site of its path; nothing if the site has no use for the method. -/
def serveSite? (s : Service) (table : Table) (world : World) (site : Site) (pieces : List String)
    (request : Request) : Option Exchange :=
  let parameters := pathParameters (Pattern.ofPath site.path) pieces
  match site with
  | .declared path =>
    (routeFor? (table.forPath path) request.method).map fun route =>
      serveRoute s world.indices route request parameters
  | .page page =>
    if request.method = .get ∨ request.method = .head then
      some (Console.serve world.files page request parameters)
    else none
  | .metrics =>
    if request.method = .get ∨ request.method = .head then
      some (.answered (metricsResponse world.log))
    else none

/-- Serves a request at the site of its path, or says which methods the site has. -/
def serveAt (s : Service) (table : Table) (world : World) (site : Site) (pieces : List String)
    (request : Request) : Exchange :=
  match serveSite? s table world site pieces request with
  | some exchange => exchange
  | none =>
    (Console.unmatched request).mapResponse
      (·.withHeader "allow" (allowValue (site.methods table)))

/-- The response as it is sent: with its length, and to `HEAD` without its body. -/
def asSent (method : Method) (response : Response) : Response :=
  if method = .head then response.withLength.withoutBody else response.withLength

/-- A router over a table. -/
structure Router where
  service : Service
  table : Table

/-- Serves a request; a path that no pattern fits is not found. -/
def Router.serve (r : Router) (world : World) (request : Request) : Exchange :=
  let exchange :=
    match siteFor? (tableSites r.table) request.path with
    | none => Exchange.answered (.ofStatus 404)
    | some (site, pieces) => serveAt r.service r.table world site pieces request
  exchange.mapResponse (asSent request.method)

end SearchGateway.Gateway
