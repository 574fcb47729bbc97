import SearchGateway.Proofs.Gateway.Authorization
import SearchGateway.Proofs.Http.Body

/-!
# Requests at routes that resolve their target

A request at such a route reaches the handler with the indices that its target selects, provided
that all the parameters of its path are text. If one of them is not, the target is not resolved:
unless the request is refused for another reason, the handler is called without targets and without
parameters (`Server.keepsResolution_iff`).
-/

namespace SearchGateway.Gateway

open Http (Request)
open Registry (Policy)
open Routing (Access Pattern Route Table)
open Security (Guard Operation)

/-! ## Stages -/

variable {s : Service} {indices : Registry.Snapshot} {route : Route}
  {request : Request} {parameters : Option (Keyed String)} {operation : Operation} {policy : Policy}

theorem stages_of_resolving (haccess : route.access = .resolving operation policy) :
    route.access.stages = [.authorization operation, .conventions, .targets policy] := by
  rw [haccess]
  rfl

/-- A request that the guard admits and that keeps the conventions reaches the handler unless the
policy refuses its target; a target that is not there is not refused. -/
theorem call_of_admitted {action : Routing.Action} {identity : Option Security.Identity}
    {query : Elastic.Query} {body : Bytes} (haccess : route.access = .resolving operation policy)
    (hendpoint : route.endpoint = .handler action)
    (hcheck : s.guard.check request.headers operation = .ok identity)
    (hkept : keepConventions s route.endpoint request = .ok (query, body)) :
    (serveRoute s indices route request parameters).call =
      (match parameters.bind (·.get? "target") with
        | none => some none
        | some expression => (indices.select policy expression).toOption.map some).map
      fun targets =>
        { action
          method := request.method
          parameters := parameters.getD .empty
          query := query.parameters
          targets
          identity
          body } := by
  have hread := Http.Body.read_ofBytes (keepConventions_eq_ok hkept).2.1
  rw [serveRoute, call_passStages, stages_of_resolving haccess]
  simp only [handAllOn?_cons, handOn?, hcheck, hkept, Except.toOption,
    Option.map_some, Option.bind_some]
  cases parameters.bind (·.get? "target") with
  | none => simp [hendpoint, serveEndpoint, dispatch, hread, callHandler, Passage.operationRequest]
  | some expression =>
      simp only
      cases indices.select policy expression with
      | ok targets =>
          simp [hendpoint, serveEndpoint, dispatch, hread, callHandler, Passage.operationRequest]
      | error e => rfl

theorem call_of_refused (haccess : route.access = .resolving operation policy)
    (h : (∃ denial, s.guard.check request.headers operation = .error denial) ∨
      ∃ failure, keepConventions s route.endpoint request = .error failure) :
    (serveRoute s indices route request parameters).call = none := by
  rw [serveRoute, call_passStages, stages_of_resolving haccess]
  rcases h with ⟨denial, hcheck⟩ | ⟨failure, hkept⟩
  · simp [handOn?, hcheck, Except.toOption]
  · cases hcheck : s.guard.check request.headers operation with
    | error denial => simp [handOn?, hcheck, Except.toOption]
    | ok identity => simp [handOn?, hcheck, hkept, Except.toOption]

theorem admitted_of_call {r : OperationRequest}
    (haccess : route.access = .resolving operation policy)
    (h : (serveRoute s indices route request parameters).call = some r) :
    ∃ identity query body, s.guard.check request.headers operation = .ok identity ∧
      keepConventions s route.endpoint request = .ok (query, body) := by
  cases hcheck : s.guard.check request.headers operation with
  | error denial =>
      rw [call_of_refused haccess (.inl ⟨denial, hcheck⟩)] at h
      cases h
  | ok identity =>
      cases hkept : keepConventions s route.endpoint request with
      | error failure =>
          rw [call_of_refused haccess (.inr ⟨failure, hkept⟩)] at h
          cases h
      | ok kept => exact ⟨identity, kept.1, kept.2, rfl, rfl⟩

/-! ## The routes of the standard table -/

theorem Server.standard_eq_ok {settings : Settings} {metrics : Bool} {server : Server}
    (h : Server.standard settings s metrics = .ok server) :
    server.router.service = s ∧ Routing.Table.standard = .ok server.router.table := by
  obtain ⟨table, htable, h⟩ := bind_eq_ok_iff.1 h
  obtain ⟨router, hrouter, h⟩ := bind_eq_ok_iff.1 h
  obtain ⟨hservice, hsame⟩ := Router.mount_eq_ok hrouter
  cases h
  exact ⟨hservice, hsame ▸ mapError_eq_ok_iff.1 htable⟩

theorem Server.table_eq_gatewayTable {settings : Settings} {metrics : Bool} {server : Server}
    (h : Server.standard settings s metrics = .ok server) :
    server.router.table = Routing.gatewayTable :=
  (Except.ok.inj (Table.standard_eq_ok.symm.trans (Server.standard_eq_ok h).2)).symm

theorem nodup_names {table : Table} (htable : Table.standard = .ok table)
    (hroute : route ∈ table.routes) (haccess : route.access = .resolving operation policy) :
    (Pattern.ofPath route.path).names.Nodup := by
  have hall : ∀ route ∈ Routing.standardRoutes.flatMap Routing.Declaration.routes,
      route.access.policy?.isSome → (Pattern.ofPath route.path).names.Nodup := by
    decide +kernel
  exact hall route (Table.routes_of_build htable ▸ hroute) (by rw [haccess]; rfl)

/-! ## Resolution -/

/-- What resolving promises about a run: the handler is called only with the indices that the target
selects, together with the target itself, and a target that selects nothing or is not there leads to
an error. -/
structure Served.KeepsResolution (e : Served) (indices : Registry.Snapshot) (policy : Policy)
    (target : Option String) : Prop where
  resolved : ∀ r, e.call = some r → ∃ expression targets, target = some expression ∧
    indices.select policy expression = .ok targets ∧ r.targets = some targets ∧
      r.parameters.get? "target" = some expression
  refused : (∀ expression targets, target = some expression →
    indices.select policy expression ≠ .ok targets) → e.call = none ∧ 400 ≤ e.response.status

namespace Server

variable {settings : Settings} {metrics : Bool} {server : Server} {pieces : List String}

theorem endpoint_of_matched (hserver : Server.standard settings s metrics = .ok server)
    (hmatched : server.matchedRoute? request = some (route, pieces))
    (haccess : route.access = .resolving operation policy) :
    ∃ action, route.endpoint = .handler action :=
  Table.endpoint_of_operation? (standard_eq_ok hserver).2
    (mem_routes_of_matched (matchedRoute?_eq_some hmatched).2) (congrArg Access.operation? haccess)

/-- A request without text for one of its parameters reaches the handler without any of them, and
without targets, if nothing else is wrong with it. -/
theorem call_of_not_textOnly (world : World) {identity : Option Security.Identity}
    {query : Elastic.Query} {body : Bytes}
    (hserver : Server.standard settings s metrics = .ok server)
    (hmatched : server.matchedRoute? request = some (route, pieces))
    (haccess : route.access = .resolving operation policy)
    (htext : ¬ TextOnly (Pattern.ofPath route.path) pieces)
    (hcheck : s.guard.check request.headers operation = .ok identity)
    (hkept : keepConventions s route.endpoint request = .ok (query, body)) :
    ∃ r, (server.serve world request).call = some r ∧ r.targets = none ∧
      r.parameters = .empty := by
  obtain ⟨action, hendpoint⟩ := endpoint_of_matched hserver hmatched haccess
  obtain ⟨rfl, -⟩ := standard_eq_ok hserver
  have hparameters : pathParameters (Pattern.ofPath route.path) pieces = none :=
    Option.not_isSome_iff_eq_none.1 fun h => htext (isSome_pathParameters.1 h)
  rw [call_serve_of_matched world hmatched, serveMatched, hparameters,
    call_of_admitted haccess hendpoint hcheck hkept]
  exact ⟨_, rfl, rfl, rfl⟩

theorem keepsResolution_of_call_eq_none {world : World} {target : Option String}
    (hserver : Server.standard settings s metrics = .ok server)
    (hmatched : server.matchedRoute? request = some (route, pieces))
    (haccess : route.access = .resolving operation policy)
    (hcall : (serveMatched s world request route pieces).call = none) :
    (server.serve world request).KeepsResolution world.indices policy target := by
  obtain ⟨action, hendpoint⟩ := endpoint_of_matched hserver hmatched haccess
  obtain ⟨rfl, -⟩ := standard_eq_ok hserver
  have hcall' := (call_serve_of_matched world hmatched).trans hcall
  constructor
  · intro r hr
    rw [hcall'] at hr
    cases hr
  · intro _
    rw [status_serve_of_matched hmatched hcall]
    exact ⟨hcall', (unreached_passStages hcall).le_status hendpoint⟩

theorem keepsResolution_of_textOnly (world : World)
    (hserver : Server.standard settings s metrics = .ok server)
    (hmatched : server.matchedRoute? request = some (route, pieces))
    (haccess : route.access = .resolving operation policy)
    (htarget : .parameter "target" ∈ Pattern.ofPath route.path)
    (htext : TextOnly (Pattern.ofPath route.path) pieces) :
    (server.serve world request).KeepsResolution world.indices policy
      (parameterText? (Pattern.ofPath route.path) pieces "target") := by
  cases hserve : (serveMatched s world request route pieces).call with
  | none => exact keepsResolution_of_call_eq_none hserver hmatched haccess hserve
  | some r =>
      obtain ⟨identity, query, body, hcheck, hkept⟩ := admitted_of_call haccess hserve
      obtain ⟨action, hendpoint⟩ := endpoint_of_matched hserver hmatched haccess
      obtain ⟨rfl, htable⟩ := standard_eq_ok hserver
      have hroute := (matchedRoute?_eq_some hmatched).2
      have hfits := (declaredFor_of_matched hroute).fits
      have hname : "target" ∈ (Pattern.ofPath route.path).names :=
        List.mem_filterMap.2 ⟨_, htarget, rfl⟩
      obtain ⟨expression, hexpression⟩ :=
        Option.isSome_iff_exists.1 (isSome_parameterText? hfits hname htext)
      obtain ⟨parameters, hparameters⟩ :=
        Option.isSome_iff_exists.1 (isSome_pathParameters.2 htext)
      have hget : parameters.get? "target" = some expression := by
        rw [get?_pathParameters hfits
          (nodup_names htable (mem_routes_of_matched hroute) haccess) hparameters, hexpression]
      have hcall := hserve
      rw [serveMatched, hparameters, call_of_admitted haccess hendpoint hcheck hkept] at hcall
      simp only [Option.bind_some, hget, Option.map_map, Option.map_eq_some_iff,
        toOption_eq_some_iff] at hcall
      obtain ⟨targets, hselect, hr⟩ := hcall
      rw [hexpression]
      constructor
      · intro r' hr'
        rw [call_serve_of_matched world hmatched, hserve] at hr'
        cases hr'
        exact ⟨expression, targets, rfl, hselect, hr ▸ rfl, hr ▸ hget⟩
      · intro hrefused
        exact absurd hselect (hrefused expression targets rfl)

/-! ## A gateway for everyone -/

/-- The server of some settings at the standard routes. -/
def gateway (settings : Settings) (service : Service) (metrics : Bool) : Server where
  router := ⟨service, Routing.gatewayTable⟩
  origins := settings.server.origins
  timeout := settings.server.deadline
  metrics

theorem standard_eq_gateway (settings : Settings) (service : Service) (metrics : Bool) :
    Server.standard settings service metrics = .ok (gateway settings service metrics) := by
  have hmethods : checkMethods Routing.gatewayTable = .ok () := rfl
  simp [Server.standard, Router.mount, Table.standard_eq_ok, hmethods, Except.mapError, gateway]

def openGuard : Guard :=
  ⟨false, fun _ => none, .empty, .ofTokens⟩

/-- The gateway before a service that admits everyone. -/
def openGateway : Server :=
  gateway default (idleService openGuard) true

def deletionRoute : Route where
  method := .delete
  path := "/es/:target/_doc/:id"
  access := .resolving .documentDelete .required
  endpoint := .handler .documentDelete

def nativeDeletionRoute : Route where
  method := .delete
  path := "/api/:target/_doc/:id"
  access := .permitted .native .documentDelete
  endpoint := .handler .documentDelete

def bulkRoute : Route where
  method := .post
  path := "/es/_bulk"
  access := .permitted .elastic .documentESBulk
  endpoint := .handler .documentESBulk

def uploadRoute : Route where
  method := .post
  path := "/api/_bulk"
  access := .permitted .native .documentBulk
  endpoint := .handler .documentBulk

/-- Paths of requests, with the routes that serve them and their pieces. -/
def takenPaths : List (String × Route × List String) := [
  ("/es/logs/_doc/1", deletionRoute, ["es", "logs", "_doc", "1"]),
  ("/es/%6Cog*%2C/_doc/%20", deletionRoute, ["es", "%6Cog*%2C", "_doc", "%20"]),
  ("/es/%FF/_doc/1", deletionRoute, ["es", "%FF", "_doc", "1"]),
  ("/api/logs/_doc/1", nativeDeletionRoute, ["api", "logs", "_doc", "1"]),
  ("/es/_bulk", bulkRoute, ["es", "_bulk"]),
  ("/api/_bulk", uploadRoute, ["api", "_bulk"])]

/-- The standard table is evaluated once for all of them. -/
theorem matched_takenPaths (settings : Settings) (service : Service) {request : Request} :
    ∀ taken ∈ takenPaths, request.path = taken.1 → request.method = taken.2.1.method →
      (gateway settings service true).matchedRoute? request = some taken.2 := by
  have hplain : ∀ taken ∈ takenPaths, openGateway.matchedRoute?
      { method := taken.2.1.method, path := taken.1, query := "", headers := [], body := .empty } =
        some taken.2 := by
    decide +kernel
  intro taken htaken hpath hmethod
  exact (matchedRoute?_congr hmethod hpath).trans (hplain taken htaken)

/-! ## When resolution is kept -/

/-- A run at a route of the standard table that resolves its target keeps what resolving promises
exactly if all parameters of the path are text or the request is refused beforehand. Otherwise the
handler is called without targets and without parameters. -/
theorem keepsResolution_iff (hserver : Server.standard settings s metrics = .ok server)
    (hmatched : server.matchedRoute? request = some (route, pieces))
    (haccess : route.access = .resolving operation policy)
    (htarget : .parameter "target" ∈ Pattern.ofPath route.path) (world : World) :
    ((server.serve world request).KeepsResolution world.indices policy
        (parameterText? (Pattern.ofPath route.path) pieces "target") ↔
      TextOnly (Pattern.ofPath route.path) pieces ∨
        (∃ denial, s.guard.check request.headers operation = .error denial) ∨
        ∃ failure, keepConventions s route.endpoint request = .error failure) ∧
    (¬ TextOnly (Pattern.ofPath route.path) pieces →
      ∀ identity, s.guard.check request.headers operation = .ok identity →
      ∀ kept, keepConventions s route.endpoint request = .ok kept →
        ∃ r, (server.serve world request).call = some r ∧ r.targets = none ∧
          r.parameters = .empty) := by
  refine ⟨⟨fun hkeeps => ?_, fun h => ?_⟩, fun htext identity hcheck kept hkept =>
    call_of_not_textOnly world hserver hmatched haccess htext hcheck hkept⟩
  · by_contra hbroken
    obtain ⟨htext, hadmitted⟩ := not_or.1 hbroken
    obtain ⟨hguard, hconventions⟩ := not_or.1 hadmitted
    cases hcheck : s.guard.check request.headers operation with
    | error denial => exact hguard ⟨denial, hcheck⟩
    | ok identity =>
        cases hkept : keepConventions s route.endpoint request with
        | error failure => exact hconventions ⟨failure, hkept⟩
        | ok kept =>
            obtain ⟨r, hr, htargets, -⟩ :=
              call_of_not_textOnly world hserver hmatched haccess htext hcheck hkept
            obtain ⟨_, _, _, _, hresolved, _⟩ := hkeeps.resolved r hr
            rw [htargets] at hresolved
            cases hresolved
  · rcases h with htext | hrefused
    · exact keepsResolution_of_textOnly world hserver hmatched haccess htarget htext
    · exact keepsResolution_of_call_eq_none hserver hmatched haccess
        (call_of_refused haccess hrefused)

/-- The target of a deletion may be written with percent escapes. -/
theorem keepsResolution_deletion :
    Server.standard default (idleService openGuard) true = .ok openGateway ∧
    openGateway.matchedRoute? (deletion "/es/%6Cog*%2C/_doc/%20" []) =
      some (deletionRoute, ["es", "%6Cog*%2C", "_doc", "%20"]) ∧
    deletionRoute.access = .resolving .documentDelete .required ∧
    .parameter "target" ∈ Pattern.ofPath deletionRoute.path ∧
    (openGateway.serve logsWorld (deletion "/es/%6Cog*%2C/_doc/%20" [])).KeepsResolution
      logsWorld.indices .required (some "log*,") := by
  have hserver : Server.standard default (idleService openGuard) true = .ok openGateway :=
    standard_eq_gateway default (idleService openGuard) true
  have hmatched : openGateway.matchedRoute? (deletion "/es/%6Cog*%2C/_doc/%20" []) =
      some (deletionRoute, ["es", "%6Cog*%2C", "_doc", "%20"]) :=
    matched_takenPaths default (idleService openGuard) ("/es/%6Cog*%2C/_doc/%20", _)
      (by simp [takenPaths]) rfl rfl
  have htarget : .parameter "target" ∈ Pattern.ofPath deletionRoute.path := by decide +kernel
  have htext : TextOnly (Pattern.ofPath deletionRoute.path)
      ["es", "%6Cog*%2C", "_doc", "%20"] := by
    decide +kernel
  have hexpression : parameterText? (Pattern.ofPath deletionRoute.path)
      ["es", "%6Cog*%2C", "_doc", "%20"] "target" = some "log*," := by
    decide +kernel
  exact ⟨hserver, hmatched, rfl, htarget, hexpression ▸
    (keepsResolution_iff hserver hmatched rfl htarget logsWorld).1.2 (.inl htext)⟩

/-- A deletion whose target is no text is carried out without a target. -/
theorem unresolved_deletion :
    ¬ ∀ (settings : Settings) (service : Service) (metrics : Bool) (server : Server),
      Server.standard settings service metrics = .ok server →
      ∀ (request : Request) (route : Route) (pieces : List String) (operation : Operation)
        (policy : Policy), server.matchedRoute? request = some (route, pieces) →
        route.access = .resolving operation policy →
        .parameter "target" ∈ Pattern.ofPath route.path →
        ∀ world, (server.serve world request).KeepsResolution world.indices policy
          (parameterText? (Pattern.ofPath route.path) pieces "target") := by
  intro hkept
  have hserver : Server.standard default (idleService openGuard) true = .ok openGateway :=
    standard_eq_gateway default (idleService openGuard) true
  have hmatched : openGateway.matchedRoute? (deletion "/es/%FF/_doc/1" []) =
      some (deletionRoute, ["es", "%FF", "_doc", "1"]) :=
    matched_takenPaths default (idleService openGuard) ("/es/%FF/_doc/1", _)
      (by simp [takenPaths]) rfl rfl
  have hkeeps := hkept _ _ _ _ hserver _ _ _ _ _ hmatched rfl (by decide +kernel) logsWorld
  obtain ⟨r, hr, htargets, -⟩ := call_of_not_textOnly logsWorld hserver hmatched rfl
    (by decide +kernel) rfl rfl
  obtain ⟨_, _, _, _, hresolved, _⟩ := hkeeps.resolved r hr
  rw [htargets] at hresolved
  cases hresolved

end Server

end SearchGateway.Gateway
