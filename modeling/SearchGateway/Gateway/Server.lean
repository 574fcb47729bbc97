import SearchGateway.Gateway.Router
import SearchGateway.Http.Origins

/-!
# The server

The server adds to the routes of the table the console, the metrics, the answer to requests that no
route serves, the headers about other origins, and a deadline.
-/

namespace SearchGateway.Gateway

open Http (Request Response)

/-- A server. No deadline is kept if there is no timeout; it is counted in seconds. -/
structure Server where
  router : Router
  origins : Http.OriginPolicy
  timeout : Option Nat
  metrics : Bool

/-- An exchange as it ends. The call of the handler is unfinished if the deadline came first. -/
structure Served where
  response : Response
  events : List Event
  call : Option OperationRequest
  finished : Bool

/-- The end of an exchange without a deadline. -/
def Exchange.finish (e : Exchange) : Served where
  response := e.response
  events := e.events ++ e.completion.toList
  call := e.call
  finished := true

namespace Server

def sites (s : Server) : List Site :=
  tableSites s.router.table ++ Console.pages.map .page ++ if s.metrics then [.metrics] else []

/-- Serves a request by its route, or as one that no route serves. -/
def route (s : Server) (world : World) (request : Request) : Exchange :=
  match siteFor? s.sites request.path with
  | none => Console.unmatched request
  | some (site, pieces) => serveAt s.router.service s.router.table world site pieces request

/-- The methods that a browser is told of if the path of its question exists. -/
def allowHeader (s : Server) (request : Request) : Http.Headers :=
  match siteFor? s.sites request.path with
  | none => []
  | some (site, _) => Http.OriginPolicy.texts [("allow", allowValue (site.methods s.router.table))]

/-- Serves a request without regard to the deadline. -/
def exchange (s : Server) (world : World) (request : Request) : Exchange :=
  let exchange :=
    if request.method = .options then
      -- Every such request counts as a question of a browser, also at a path that nothing serves.
      let response := s.origins.preflight request
      Exchange.answered { response with headers := response.headers ++ s.allowHeader request }
    else (s.route world request).mapResponse (s.origins.stamp request)
  exchange.mapResponse (asSent request.method)

/-- Whether the handler takes longer than the server waits. -/
def expires (s : Server) (e : Exchange) : Bool :=
  match s.timeout with
  -- Only the handler takes time.
  | some seconds => e.call.isSome && decide (seconds * 1000 ≤ e.delay)
  | none => false

def serve (s : Server) (world : World) (request : Request) : Served :=
  let e := s.exchange world request
  if s.expires e then
    -- The deadline comes from outside the other layers, so none of them adds a header.
    { response := asSent request.method (.ofStatus 408)
      events := e.events
      call := e.call
      finished := false }
  else e.finish

end Server

end SearchGateway.Gateway
