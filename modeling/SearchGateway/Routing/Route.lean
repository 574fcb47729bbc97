import SearchGateway.Elastic.Payload
import SearchGateway.Http.Method
import SearchGateway.Registry.Policy
import SearchGateway.Routing.Action
import SearchGateway.Security.Operation

/-!
# Routes

A route belongs to one of three surfaces: the root, the native dialect under `/api` or the
Elasticsearch dialect under `/es`. Who may take it and what it does on the way to its endpoint
follow from its access.
-/

namespace SearchGateway.Routing

open Security (Operation)

/-- The conventions that a route's requests and responses follow. -/
inductive Dialect where
  | native
  | elastic
deriving DecidableEq, Repr

def Dialect.token : Dialect → String
  | .native => "native"
  | .elastic => "compat"

/-- What a request passes before it reaches the endpoint. -/
inductive Stage where
  | authorization (operation : Operation)
  | conventions
  | targets (policy : Registry.Policy)
deriving DecidableEq, Repr

/-- Who may take a route, and whether its target names indices. -/
inductive Access where
  | anyone (dialect : Dialect)
  | permitted (dialect : Dialect) (operation : Operation)
  | resolving (operation : Operation) (policy : Registry.Policy)
deriving DecidableEq, Repr

namespace Access

/-- The dialect of a route; only the Elasticsearch dialect resolves targets. -/
def dialect : Access → Dialect
  | .anyone dialect => dialect
  | .permitted dialect _ => dialect
  | .resolving _ _ => .elastic

/-- The operation that callers need a permission for. -/
def operation? : Access → Option Operation
  | .anyone _ => none
  | .permitted _ operation => some operation
  | .resolving operation _ => some operation

/-- The policy for the target. -/
def policy? : Access → Option Registry.Policy
  | .resolving _ policy => some policy
  | _ => none

/-- The stages in the order in which a request passes them. -/
def stages (access : Access) : List Stage :=
  -- Nothing is said about a request before its caller is known.
  (access.operation?.map Stage.authorization).toList ++
    (if access.dialect = .elastic then [Stage.conventions] else []) ++
    (access.policy?.map Stage.targets).toList

end Access

/-- What a route ends in. -/
inductive Endpoint where
  | handler (action : Action)
  | clusterInfo
  | license
  | features
  | version
  | health
  | redirect (location : String)
deriving DecidableEq, Repr

/-- The rule for bodies that are sent to an endpoint in the Elasticsearch dialect. -/
def Endpoint.payload : Endpoint → Elastic.Payload
  | .handler action =>
    match action with
    | .searchDSL => .jsonObject
    | .indexCreateES => .jsonObject
    | .searchMultipleSearch => .ndjson "msearch"
    | .documentESBulk => .ndjson "bulk"
    | .searchDeleteByQuery => .requiredFields ["query"]
    | .indexAddOrRemoveESAlias => .requiredFields ["actions"]
    | .indexCreateTemplate => .requiredJsonObject
    | .indexSetMapping => .requiredJsonObject
    | .indexSetSettings => .requiredJsonObject
    | .indexAnalyze => .requiredJsonObject
    | .documentCreateUpdate => .requiredJsonObject
    | .documentUpdate => .requiredJsonObject
    | _ => .ignored
  | _ => .ignored

/-- A method and a path, what it takes to pass, and what the request ends in. -/
structure Route where
  method : Http.Method
  path : String
  access : Access
  endpoint : Endpoint
deriving DecidableEq, Repr

/-- What no two routes of a table have in common. -/
def Route.key (r : Route) : Http.Method × String :=
  (r.method, r.path)

end SearchGateway.Routing
