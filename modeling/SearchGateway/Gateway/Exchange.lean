import SearchGateway.Elastic.Cluster
import SearchGateway.Elastic.MediaType
import SearchGateway.Elastic.Query
import SearchGateway.Gateway.Failure
import SearchGateway.Http.Form

/-!
# The way of a request through its route

A request passes the stages of its route in order and ends in the endpoint. A stage lets it pass,
perhaps changed, or answers in its place; the Elasticsearch conventions also shape the response
that comes back. What comes of a request is an exchange: the response, what is counted, and the
call of the handler if there was one.
-/

namespace SearchGateway.Gateway

open Http (Request Response)
open Routing (Dialect Endpoint Route Stage)

/-- What comes of a request. The last event is counted when the handler has answered. -/
structure Exchange where
  response : Response
  events : List Event := []
  call : Option OperationRequest := none
  delay : Nat := 0
  completion : Option Event := none

namespace Exchange

/-- An exchange without a call of the handler. -/
def answered (response : Response) (events : List Event := []) : Exchange :=
  { response, events }

def mapResponse (f : Response → Response) (e : Exchange) : Exchange :=
  { e with response := f e.response }

/-- Counts an event before the others. -/
def counting (event : Event) (e : Exchange) : Exchange :=
  { e with events := event :: e.events }

end Exchange

/-- What requests are served with, whatever their route. -/
structure Service where
  handler : Handler
  guard : Security.Guard
  cluster : Elastic.Cluster
  maxBodySize : Nat

/-- A request on its way. Parameters of the path are missing if one of them is no text. -/
structure Passage where
  request : Request
  parameters : Option (Keyed String)
  query : Option (Keyed String) := none
  targets : Option (List String) := none
  identity : Option Security.Identity := none

/-! ## Endpoints -/

/-- The query as it is sent; of parameters with one name the last one counts. -/
def plainQuery (query : String) : Keyed String :=
  .ofList (Http.formPairs query)

/-- What the handler is asked for a request. -/
def Passage.operationRequest (p : Passage) (action : Routing.Action) (body : Bytes) :
    OperationRequest where
  action
  method := p.request.method
  parameters := p.parameters.getD .empty
  query := p.query.getD (plainQuery p.request.query)
  targets := p.targets
  identity := p.identity
  body

def callHandler (s : Service) (dialect : Dialect) (request : OperationRequest) : Exchange :=
  let reply := s.handler request
  let response := respondWith reply.outcome
  { response
    call := some request
    delay := reply.delay
    completion := some (.dispatched request.action dialect response.status) }

/-- Reads the body and calls the handler. -/
def dispatch (s : Service) (dialect : Dialect) (action : Routing.Action) (p : Passage) :
    Exchange :=
  -- After the conventions the body is one chunk that is known to fit, and is read again.
  match p.request.body.read s.maxBodySize with
  | .error e => .answered ((Failure.ofBodyError e).render dialect)
  | .ok body => callHandler s dialect (p.operationRequest action body)

/-- Serves a request that has passed every stage. -/
def serveEndpoint (s : Service) (dialect : Dialect) (endpoint : Endpoint) (p : Passage) :
    Exchange :=
  match endpoint with
  | .handler action => dispatch s dialect action p
  | .clusterInfo => .answered (.ofJson 200 s.cluster.rootInfo)
  | .license => .answered (.ofJson 200 s.cluster.license)
  | .features => .answered (.ofJson 200 s.cluster.features)
  | .version => .answered (.ofJson 200 (.object [("version", .string Elastic.buildVersion)]))
  | .health => .answered (.ofJson 200 (.object [("status", .string "ok")]))
  | .redirect location => .answered (.redirect 301 location)

/-! ## The Elasticsearch conventions -/

/-- Checks the media type that a header names. -/
def checkMediaType (headers : Http.Headers) (name : String) :
    Except Elastic.Failure Unit :=
  match (headers.first? name).bind Http.visibleText? with
  | none => .ok ()
  | some value =>
    match Elastic.plainType value with
    | .ok _ => .ok ()
    | .error e => .error e.failure

/-- The query in normal form and the body of a request that keeps the conventions. -/
def keepConventions (s : Service) (endpoint : Endpoint) (request : Request) :
    Except Elastic.Failure (Elastic.Query × Bytes) := do
  -- The first fault is reported, so the order of these checks shows.
  checkMediaType request.headers "content-type"
  checkMediaType request.headers "accept"
  let query ← (Elastic.Query.ofPairs (Http.formPairs request.query)).mapError (·.failure)
  let body ← (request.body.read s.maxBodySize).mapError fun e =>
    .parse s!"failed to read request body: {e.message}"
  (endpoint.payload.check body).mapError (·.failure)
  return (query, body)

/-- Names the product that answers. -/
def nameProduct (response : Response) : Response :=
  response.withHeader Elastic.productHeader Elastic.productName

def isJson (response : Response) : Bool :=
  match (response.headers.first? "content-type").bind Http.visibleText? with
  | some value => "application/json".toList.isPrefixOf value.toList
  | none => false

/-- Indents a JSON body; any other body stays as it is. -/
def indent (response : Response) : Response :=
  if isJson response then
    match Json.read response.body with
    | .ok document => { response with body := Text.Utf8.encode (document.pretty ++ "\n") }
    | .error _ => response
  else response

/-- Shapes a response by the conventions. -/
def present (pretty : Bool) (response : Response) : Response :=
  nameProduct (if pretty then indent response else response)

/-! ## Stages -/

/-- Leads a request through the stages that are left. -/
def passStages (s : Service) (indices : Registry.Snapshot) (route : Route) :
    List Stage → Passage → Exchange
  | [], p => serveEndpoint s route.access.dialect route.endpoint p
  | .authorization operation :: rest, p =>
    match s.guard.check p.request.headers operation with
    | .ok identity => passStages s indices route rest { p with identity }
    -- The caller is denied before the conventions, so they do not shape this response.
    | .error denial =>
      .answered ((Failure.ofDenial denial).render route.access.dialect)
        [.denied operation (denialKind denial)]
  | .conventions :: rest, p =>
    match keepConventions s route.endpoint p.request with
    | .ok (query, body) =>
      (passStages s indices route rest
        -- The body has been taken off the stream, so later stages get it back in one piece.
        { p with
          request := { p.request with body := .ofBytes body }
          query := some query.parameters }).mapResponse (present query.pretty)
    -- No query has been accepted yet, so nothing is indented.
    | .error failure =>
      .answered (nameProduct ((Failure.badRequest failure).render .elastic))
        [.refused failure.type]
  | .targets policy :: rest, p =>
    match p.parameters.bind (·.get? "target") with
    -- Parameters that are missing as a whole are passed over in the same way.
    | none => passStages s indices route rest p
    | some expression =>
      match indices.select policy expression with
      | .ok targets =>
        (passStages s indices route rest { p with targets := some targets }).counting
          (.target policy (if targets.isEmpty then .empty else .resolved))
      | .error e =>
        .answered ((Failure.ofTargetError e).render .elastic) [.target policy .rejected]

def serveRoute (s : Service) (indices : Registry.Snapshot) (route : Route) (request : Request)
    (parameters : Option (Keyed String)) : Exchange :=
  passStages s indices route route.access.stages { request, parameters }

end SearchGateway.Gateway
