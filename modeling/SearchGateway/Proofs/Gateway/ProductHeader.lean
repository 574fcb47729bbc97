import SearchGateway.Proofs.Gateway.Denial
import SearchGateway.Proofs.Gateway.Resolution
import SearchGateway.Proofs.Http.Headers

/-!
# The header that names the product

Clients of the Elasticsearch dialect expect a response to name the product. The conventions add the
header once to whatever comes back through them, but authorization answers before them. A response
at a route of that dialect therefore names the product exactly if the caller is not denied, and no
other route ever names it (`Server.productValues_iff`).
-/

namespace SearchGateway.Gateway

open Http (Request Response)
open Routing (Declaration Dialect Endpoint Route Stage)
open Security (Guard Operation)

/-- The values of the header that names the product. -/
def productValues (response : Response) : List Bytes :=
  response.headers.values Elastic.productHeader

/-- The values of that header when it is there once and names the product. -/
def productNamed : List Bytes := [Text.Utf8.encode Elastic.productName]

variable {s : Service} {indices : Registry.Snapshot} {route : Route} {endpoint : Endpoint}
  {dialect : Dialect} {stages : List Stage} {p : Passage} {response : Response}

/-! ## Responses without the header -/

@[simp] theorem productValues_ofStatus {status : Nat} :
    productValues (.ofStatus status) = [] := rfl

theorem productValues_withHeader {name value : String} (h : name ≠ Elastic.productHeader) :
    productValues (response.withHeader name value) = productValues response :=
  Http.Headers.values_set_of_ne h

@[simp] theorem productValues_respondWith {outcome : Outcome} :
    productValues (respondWith outcome) = [] := by
  match outcome with
  | .ok ⟨_, some _⟩ | .ok ⟨_, none⟩ | .error _ => rfl

theorem productValues_document {failure : Failure} :
    productValues (failure.document dialect) = [] := by
  cases dialect <;> rfl

@[simp] theorem productValues_render {failure : Failure} :
    productValues (failure.render dialect) = [] := by
  cases failure with
  | handler error => exact productValues_respondWith
  | unauthenticated reason =>
      exact (productValues_withHeader (by decide)).trans productValues_document
  | _ => exact productValues_document

theorem productValues_serveEndpoint :
    productValues (serveEndpoint s dialect endpoint p).response = [] := by
  cases endpoint with
  | handler action =>
      simp only [serveEndpoint, dispatch]
      split
      · exact productValues_render
      · exact productValues_respondWith
  | _ => rfl

/-! ## The conventions -/

theorem productValues_nameProduct : productValues (nameProduct response) = productNamed :=
  Http.Headers.values_set_self

theorem productValues_passStages_conventions :
    productValues (passStages s indices route (.conventions :: stages) p).response =
      productNamed := by
  simp only [passStages]
  split <;> exact productValues_nameProduct

theorem productValues_passStages (h : .conventions ∉ stages) :
    productValues (passStages s indices route stages p).response = [] := by
  induction stages generalizing p with
  | nil => exact productValues_serveEndpoint
  | cons stage stages ih =>
      have hrest : .conventions ∉ stages := fun hmem => h (List.mem_cons_of_mem _ hmem)
      rw [passStages_cons]
      cases tryStage s indices route.endpoint p stage with
      | ok q =>
          cases stage with
          | conventions => exact absurd List.mem_cons_self h
          | authorization operation | targets policy => exact ih hrest
      | error failure =>
          cases stage with
          | conventions => exact absurd List.mem_cons_self h
          | authorization operation | targets policy => exact productValues_render

/-! ## Routes -/

section

variable {request : Request} {parameters : Option (Keyed String)}

theorem serveRoute_of_admitted {operation : Operation} {identity : Option Security.Identity}
    (hstages : route.access.stages = .authorization operation :: stages)
    (hcheck : s.guard.check request.headers operation = .ok identity) :
    serveRoute s indices route request parameters =
      passStages s indices route stages { request, parameters, identity } := by
  rw [serveRoute, hstages, passStages]
  simp only [hcheck]

theorem productValues_serveRoute_native (h : route.access.dialect = .native) :
    productValues (serveRoute s indices route request parameters).response = [] :=
  productValues_passStages (by simp [conventions_mem_stages, h])

/-- The guard denies the caller what the route needs. -/
def Denies (guard : Guard) (route : Route) (request : Request) : Prop :=
  ∃ operation denial, route.access.operation? = some operation ∧
    guard.check request.headers operation = .error denial

theorem not_denies_of_disabled {guard : Guard} (h : guard.enabled = false) :
    ¬ Denies guard route request := by
  rintro ⟨operation, denial, -, hcheck⟩
  simp [Guard.check, h] at hcheck

theorem productValues_serveRoute_denied (h : Denies s.guard route request) :
    productValues (serveRoute s indices route request parameters).response = [] := by
  obtain ⟨operation, denial, hoperation, hcheck⟩ := h
  rw [serveRoute_of_denied hoperation hcheck]
  exact productValues_render

/-- A request comes to what follows authorization unless the caller is denied. -/
theorem exists_passage_of_not_denied (indices : Registry.Snapshot)
    (parameters : Option (Keyed String)) (h : ¬ Denies s.guard route request) :
    ∃ p, serveRoute s indices route request parameters =
      passStages s indices route
        ((if route.access.dialect = .elastic then [.conventions] else []) ++
          (route.access.policy?.map Stage.targets).toList) p ∧ p.request = request := by
  cases hoperation : route.access.operation? with
  | none =>
      refine ⟨{ request, parameters }, ?_, rfl⟩
      rw [serveRoute, Routing.Access.stages, hoperation]
      rfl
  | some operation =>
      cases hcheck : s.guard.check request.headers operation with
      | error denial => exact absurd ⟨operation, denial, hoperation, hcheck⟩ h
      | ok identity =>
          refine ⟨{ request, parameters, identity }, serveRoute_of_admitted ?_ hcheck, rfl⟩
          rw [Routing.Access.stages, hoperation]
          rfl

theorem serveRoute_of_not_denied (indices : Registry.Snapshot)
    (parameters : Option (Keyed String)) (hdialect : route.access.dialect = .elastic)
    (h : ¬ Denies s.guard route request) :
    ∃ rest p, serveRoute s indices route request parameters =
      passStages s indices route (.conventions :: rest) p ∧ p.request = request := by
  obtain ⟨p, hserve, hp⟩ := exists_passage_of_not_denied indices parameters h
  rw [if_pos hdialect] at hserve
  exact ⟨_, p, hserve, hp⟩

theorem serveRoute_of_native (indices : Registry.Snapshot)
    (parameters : Option (Keyed String)) (hdialect : route.access.dialect = .native)
    (h : ¬ Denies s.guard route request) :
    ∃ p, serveRoute s indices route request parameters =
      serveEndpoint s .native route.endpoint p ∧ p.request = request := by
  obtain ⟨p, hserve, hp⟩ := exists_passage_of_not_denied indices parameters h
  have hpolicy : route.access.policy? = none := by
    cases haccess : route.access with
    | anyone dialect | permitted dialect operation => rfl
    | resolving operation policy =>
        rw [haccess] at hdialect
        cases hdialect
  refine ⟨p, ?_, hp⟩
  rw [hserve, hpolicy, hdialect, if_neg (by decide)]
  simp only [Option.map_none, Option.toList_none, List.append_nil, passStages, hdialect]

theorem productValues_serveRoute_elastic (hdialect : route.access.dialect = .elastic)
    (h : ¬ Denies s.guard route request) :
    productValues (serveRoute s indices route request parameters).response = productNamed := by
  obtain ⟨rest, p, hserve, -⟩ := serveRoute_of_not_denied indices parameters hdialect h
  rw [hserve]
  exact productValues_passStages_conventions

end

/-! ## What is sent -/

theorem productValues_asSent {method : Http.Method} :
    productValues (asSent method response) = productValues response := by
  unfold asSent
  split <;> exact Http.Response.values_withLength (by decide)

namespace Server

variable {server : Server} {world : World} {request : Request} {pieces : List String}
  {declaration : Declaration}

theorem productValues_stamp {origins : Http.OriginPolicy} :
    productValues (origins.stamp request response) = productValues response :=
  Http.OriginPolicy.values_stamp (by decide)

theorem productValues_serve_of_finished
    (hmatched : server.matchedRoute? request = some (route, pieces))
    (hfinished : (server.serve world request).finished = true) :
    productValues (server.serve world request).response =
      productValues (serveMatched server.router.service world request route pieces).response := by
  rw [serve_of_finished hfinished, exchange_of_matched world hmatched]
  simp only [Exchange.finish, Exchange.mapResponse, productValues_asSent, productValues_stamp]

/-- A response that does not name the product on its way is sent without the header. -/
theorem productValues_serve_eq_nil (world : World)
    (hmatched : server.matchedRoute? request = some (route, pieces))
    (h : productValues (serveMatched server.router.service world request route pieces).response =
      []) :
    productValues (server.serve world request).response = [] := by
  cases hfinished : (server.serve world request).finished with
  | true => rw [productValues_serve_of_finished hmatched hfinished, h]
  | false => rw [response_of_unfinished hfinished, productValues_asSent, productValues_ofStatus]

theorem dialect_of_mem_routes (hroute : route ∈ declaration.routes) :
    route.access.dialect = declaration.surface.dialect := by
  rw [(Declaration.mem_routes hroute).1]
  cases declaration <;> rfl

/-! ## Which responses name the product -/

/-- A response that is sent before the deadline at a route of the Elasticsearch surface has the
header exactly once with the name of the product, unless authorization denies the caller. A denied
caller's response and every response at a route of another surface are without it. -/
theorem productValues_iff (hmatched : server.matchedRoute? request = some (route, pieces))
    (hroute : route ∈ declaration.routes) (world : World) :
    (declaration.surface = .elastic → (server.serve world request).finished = true →
      (productValues (server.serve world request).response = productNamed ↔
        ¬ Denies server.router.service.guard route request)) ∧
    (Denies server.router.service.guard route request →
      productValues (server.serve world request).response = []) ∧
    (declaration.surface ≠ .elastic →
      productValues (server.serve world request).response = []) := by
  have hdialect := dialect_of_mem_routes hroute
  have hdenied (h : Denies server.router.service.guard route request) :
      productValues (server.serve world request).response = [] :=
    productValues_serve_eq_nil world hmatched (productValues_serveRoute_denied h)
  refine ⟨fun hsurface hfinished => ⟨fun hnamed h => ?_, fun h => ?_⟩, hdenied, fun hsurface => ?_⟩
  · rw [hdenied h] at hnamed
    cases hnamed
  · rw [productValues_serve_of_finished hmatched hfinished]
    exact productValues_serveRoute_elastic (by rw [hdialect, hsurface]; rfl) h
  · refine productValues_serve_eq_nil world hmatched (productValues_serveRoute_native ?_)
    rw [hdialect]
    cases hname : declaration.surface with
    | root | native => rfl
    | elastic => exact absurd hname hsurface

/-! ## A deletion, admitted and denied -/

/-- The declaration of the route for deletions. -/
def deletionDeclaration : Declaration :=
  .resolving [.delete] "/:target/_doc/:id" .documentDelete .documentDelete .required

theorem mem_routes_deletion : deletionRoute ∈ deletionDeclaration.routes := by decide

theorem matched_deletion (settings : Settings) (service : Service) :
    (gateway settings service true).matchedRoute? (deletion "/es/logs/_doc/1" []) =
      some (deletionRoute, ["es", "logs", "_doc", "1"]) :=
  matched_takenPaths settings service ("/es/logs/_doc/1", _) (by simp [takenPaths]) rfl rfl

/-- An index that is missing is reported by a response that names the product. -/
theorem productValues_missing_index :
    openGateway.matchedRoute? (deletion "/es/logs/_doc/1" []) =
      some (deletionRoute, ["es", "logs", "_doc", "1"]) ∧
    deletionRoute ∈ deletionDeclaration.routes ∧
    (openGateway.serve ⟨.empty, [], []⟩ (deletion "/es/logs/_doc/1" [])).finished = true ∧
    productValues (openGateway.serve ⟨.empty, [], []⟩ (deletion "/es/logs/_doc/1" [])).response =
      productNamed := by
  have hmatched : openGateway.matchedRoute? (deletion "/es/logs/_doc/1" []) =
      some (deletionRoute, ["es", "logs", "_doc", "1"]) :=
    matched_deletion default (idleService openGuard)
  have hfinished : (openGateway.serve ⟨.empty, [], []⟩
      (deletion "/es/logs/_doc/1" [])).finished = true := by
    rw [serve, exchange_of_matched _ hmatched]
    decide +kernel
  have hadmitted : ¬ Denies openGuard deletionRoute (deletion "/es/logs/_doc/1" []) := by
    rintro ⟨operation, denial, -, hcheck⟩
    cases hcheck
  exact ⟨hmatched, mem_routes_deletion, hfinished,
    ((productValues_iff hmatched mem_routes_deletion _).1 rfl hfinished).2 hadmitted⟩

def closedGuard : Guard :=
  ⟨true, fun _ => none, .empty, .ofTokens⟩

/-- The gateway before a service that admits nobody. -/
def closedGateway : Server :=
  gateway default (idleService closedGuard) true

/-- The response to a caller without a credential does not name the product. -/
theorem unnamed_denial :
    ¬ ∀ (settings : Settings) (service : Service) (metrics : Bool) (server : Server),
      Server.standard settings service metrics = .ok server →
      ∀ (declaration : Declaration) (route : Route) (request : Request) (pieces : List String),
        declaration ∈ Routing.standardRoutes → route ∈ declaration.routes →
        declaration.surface = .elastic →
        server.matchedRoute? request = some (route, pieces) →
        ∀ world, (server.serve world request).finished = true →
          productValues (server.serve world request).response = productNamed := by
  intro hnamed
  have hserver : Server.standard default (idleService closedGuard) true = .ok closedGateway :=
    standard_eq_gateway default (idleService closedGuard) true
  have hmatched : closedGateway.matchedRoute? (deletion "/es/logs/_doc/1" []) =
      some (deletionRoute, ["es", "logs", "_doc", "1"]) :=
    matched_deletion default (idleService closedGuard)
  have hdenied : closedGuard.check [] .documentDelete = .error .noCredential := rfl
  have hserve := serve_of_denied logsWorld hmatched rfl hdenied
  have hvalues := hnamed _ _ _ _ hserver deletionDeclaration deletionRoute _ _ (by decide)
    mem_routes_deletion rfl hmatched logsWorld (by rw [hserve])
  have hnone := productValues_serve_eq_nil logsWorld hmatched
    (productValues_serveRoute_denied ⟨_, _, rfl, hdenied⟩)
  rw [hnone] at hvalues
  cases hvalues

end Server

end SearchGateway.Gateway
