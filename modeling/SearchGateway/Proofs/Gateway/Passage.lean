import SearchGateway.Gateway.Exchange
import SearchGateway.Proofs.Elastic.Query

/-!
# Passing the stages

A stage hands a request on (`handOn?`) or answers it in the place of the endpoint. What comes of a
request at one stage is said once (`passStages_cons`), and what a stage may hand on as well
(`HandsOn`). So the handler is called for a request exactly if all stages hand it on and the
endpoint calls the handler for what they hand on (`call_passStages`).
-/

namespace SearchGateway.Gateway

open Elastic (asksPretty)
open Http (Request Response)
open Routing (Dialect Endpoint Route Stage)

/-- A request as a stage hands it on; nothing if the stage answers it. -/
def handOn? (s : Service) (indices : Registry.Snapshot) (endpoint : Endpoint) (p : Passage) :
    Stage → Option Passage
  | .authorization operation =>
    (s.guard.check p.request.headers operation).toOption.map fun identity => { p with identity }
  | .conventions =>
    (keepConventions s endpoint p.request).toOption.map fun (query, body) =>
      { p with
        request := { p.request with body := .ofBytes body }
        query := some query.parameters }
  | .targets policy =>
    match p.parameters.bind (·.get? "target") with
    | none => some p
    | some expression =>
      (indices.select policy expression).toOption.map fun targets =>
        { p with targets := some targets }

/-- A request as several stages hand it on, one after the other. -/
def handAllOn? (s : Service) (indices : Registry.Snapshot) (endpoint : Endpoint)
    (stages : List Stage) (p : Passage) : Option Passage :=
  stages.foldlM (handOn? s indices endpoint) p

/-- A request as a stage hands it on, or what the stage has against it. -/
def tryStage (s : Service) (indices : Registry.Snapshot) (endpoint : Endpoint) (p : Passage) :
    Stage → Except Failure Passage
  | .authorization operation =>
    match s.guard.check p.request.headers operation with
    | .ok identity => .ok { p with identity }
    | .error denial => .error (.ofDenial denial)
  | .conventions =>
    match keepConventions s endpoint p.request with
    | .ok (query, body) => .ok {
        p with
        request := { p.request with body := .ofBytes body }
        query := some query.parameters }
    | .error failure => .error (.badRequest failure)
  | .targets policy =>
    match p.parameters.bind (·.get? "target") with
    | none => .ok p
    | some expression =>
      match indices.select policy expression with
      | .ok targets => .ok { p with targets := some targets }
      | .error e => .error (.ofTargetError e)

/-- The answer of a stage to a request that it has something against. -/
def refuse (dialect : Dialect) (failure : Failure) : Stage → Response
  | .authorization _ => failure.render dialect
  | .conventions => nameProduct (failure.render .elastic)
  | .targets _ => failure.render .elastic

/-- A response as a stage passes it back: the conventions shape it. -/
def passBack (request : Request) : Stage → Response → Response
  | .conventions => present (asksPretty (plainQuery request.query))
  | _ => id

/-- What has become of a target expression that is resolved in this way. -/
def Resolution.of : Except Registry.TargetError (List String) → Resolution
  | .ok [] => .empty
  | .ok (_ :: _) => .resolved
  | .error _ => .rejected

/-- What a stage counts when a request comes to it. -/
def noted? (s : Service) (indices : Registry.Snapshot) (endpoint : Endpoint)
    (request : Http.Request) (parameters : Option (Keyed String)) : Stage → Option Event
  | .authorization operation =>
    match s.guard.check request.headers operation with
    | .ok _ => none
    | .error denial => some (.denied operation (denialKind denial))
  | .conventions =>
    match keepConventions s endpoint request with
    | .ok _ => none
    | .error failure => some (.refused failure.type)
  | .targets policy => (parameters.bind (·.get? "target")).map fun expression =>
    .target policy (.of (indices.select policy expression))

variable {s : Service} {indices : Registry.Snapshot} {route : Route} {endpoint : Endpoint}
  {stage : Stage} {stages : List Stage} {p q : Passage}

@[simp] theorem handAllOn?_nil : handAllOn? s indices endpoint [] p = some p := rfl

@[simp] theorem handAllOn?_cons :
    handAllOn? s indices endpoint (stage :: stages) p =
      (handOn? s indices endpoint p stage).bind (handAllOn? s indices endpoint stages) := rfl

/-! ## The conventions -/

theorem keepConventions_eq_ok {request : Http.Request} {query : Elastic.Query} {body : Bytes}
    (h : keepConventions s endpoint request = .ok (query, body)) :
    Elastic.Query.ofPairs (Http.formPairs request.query) = .ok query ∧
      request.body.read s.maxBodySize = .ok body ∧ endpoint.payload.check body = .ok () := by
  unfold keepConventions at h
  simp only [bind_eq_ok_iff, mapError_eq_ok_iff, pure_eq_ok, Except.ok.injEq, Prod.mk.injEq] at h
  obtain ⟨_, _, _, _, _, hquery, _, hread, _, hcheck, rfl, rfl⟩ := h
  exact ⟨hquery, hread, hcheck⟩

/-! ## One stage -/

theorem handOn?_eq :
    handOn? s indices endpoint p stage = (tryStage s indices endpoint p stage).toOption := by
  cases stage with
  | authorization operation =>
      simp only [handOn?, tryStage]
      cases s.guard.check p.request.headers operation <;> rfl
  | conventions =>
      simp only [handOn?, tryStage]
      cases keepConventions s endpoint p.request <;> rfl
  | targets policy =>
      simp only [handOn?, tryStage]
      cases p.parameters.bind (·.get? "target") with
      | none => rfl
      | some expression =>
          simp only
          cases indices.select policy expression <;> rfl

/-- A stage counts what it has to count, and either hands the request on and passes back what comes
of it, or answers it. -/
theorem passStages_cons :
    passStages s indices route (stage :: stages) p =
      match tryStage s indices route.endpoint p stage with
      | .ok q =>
        { (passStages s indices route stages q).mapResponse (passBack p.request stage) with
          events := (noted? s indices route.endpoint p.request p.parameters stage).toList ++
            (passStages s indices route stages q).events }
      | .error failure =>
        .answered (refuse route.access.dialect failure stage)
          (noted? s indices route.endpoint p.request p.parameters stage).toList := by
  cases stage with
  | authorization operation =>
      simp only [passStages, tryStage, noted?]
      cases s.guard.check p.request.headers operation <;> rfl
  | conventions =>
      simp only [passStages, tryStage, noted?]
      cases hkept : keepConventions s route.endpoint p.request with
      | ok kept =>
          have hpretty := Elastic.Query.pretty_ofPairs (keepConventions_eq_ok hkept).1
          simp only [hpretty]
          rfl
      | error failure => rfl
  | targets policy =>
      simp only [passStages, tryStage, noted?]
      cases p.parameters.bind (·.get? "target") with
      | none => rfl
      | some expression =>
          simp only [Option.map_some, Option.toList_some]
          cases indices.select policy expression with
          | ok targets => cases targets <;> rfl
          | error e => rfl

@[simp] theorem status_present {pretty : Bool} {response : Http.Response} :
    (present pretty response).status = response.status := by
  unfold present nameProduct indent Http.Response.withHeader
  cases pretty with
  | false => rfl
  | true =>
      simp only [if_true]
      split
      · split <;> rfl
      · rfl

@[simp] theorem status_passBack {request : Request} {response : Response} :
    (passBack request stage response).status = response.status := by
  cases stage with
  | conventions => exact status_present
  | authorization operation | targets policy => rfl

/-- What a stage may hand on: authorization adds the caller, the conventions put the query in normal
form and read the body, and the target is resolved. -/
inductive HandsOn (s : Service) (endpoint : Endpoint) (p : Passage) : Stage → Passage → Prop where
  | admitted {operation identity} : s.guard.check p.request.headers operation = .ok identity →
      HandsOn s endpoint p (.authorization operation) { p with identity }
  | conventional {query body} : keepConventions s endpoint p.request = .ok (query, body) →
      HandsOn s endpoint p .conventions
        { p with
          request := { p.request with body := .ofBytes body }
          query := some query.parameters }
  | aimed {policy} (targets : Option (List String)) :
      HandsOn s endpoint p (.targets policy) { p with targets }

theorem handsOn_of_handOn? (h : handOn? s indices endpoint p stage = some q) :
    HandsOn s endpoint p stage q := by
  cases stage with
  | authorization operation =>
      obtain ⟨identity, hcheck, rfl⟩ := Option.map_eq_some_iff.1 h
      exact .admitted (toOption_eq_some_iff.1 hcheck)
  | conventions =>
      obtain ⟨⟨query, body⟩, hkept, rfl⟩ := Option.map_eq_some_iff.1 h
      exact .conventional (toOption_eq_some_iff.1 hkept)
  | targets policy =>
      simp only [handOn?] at h
      split at h
      · cases h
        exact .aimed p.targets
      · obtain ⟨targets, -, rfl⟩ := Option.map_eq_some_iff.1 h
        exact .aimed (some targets)

/-! ## Calls of the handler -/

theorem call_passStages :
    (passStages s indices route stages p).call =
      (handAllOn? s indices route.endpoint stages p).bind fun q =>
        (serveEndpoint s route.access.dialect route.endpoint q).call := by
  induction stages generalizing p with
  | nil => rfl
  | cons stage stages ih =>
      rw [passStages_cons, handAllOn?_cons, handOn?_eq]
      cases tryStage s indices route.endpoint p stage with
      | ok q => exact ih
      | error failure => rfl

theorem call_serveEndpoint_eq_some {dialect : Dialect} {r : OperationRequest} :
    (serveEndpoint s dialect endpoint p).call = some r ↔
      ∃ action body, endpoint = .handler action ∧ p.request.body.read s.maxBodySize = .ok body ∧
        r = p.operationRequest action body := by
  cases endpoint with
  | handler action =>
      simp only [serveEndpoint, dispatch, Endpoint.handler.injEq]
      cases p.request.body.read s.maxBodySize with
      | ok body => simp [callHandler, eq_comm]
      | error e => simp [Exchange.answered]
  | _ => simp [serveEndpoint, Exchange.answered]

/-- What comes of a request depends on the handler only through the answer to the call. -/
theorem passStages_congr_handler {handler : Handler}
    (h : ∀ r, (passStages s indices route stages p).call = some r → handler r = s.handler r) :
    passStages { s with handler } indices route stages p = passStages s indices route stages p := by
  induction stages generalizing p with
  | nil =>
      simp only [passStages] at h ⊢
      cases hendpoint : route.endpoint with
      | handler action =>
          simp only [hendpoint, serveEndpoint, dispatch] at h ⊢
          cases hread : p.request.body.read s.maxBodySize with
          | ok body =>
              simp only [hread] at h ⊢
              simp only [callHandler, h _ rfl]
          | error e => rfl
      | _ => rfl
  | cons stage stages ih =>
      have htry : tryStage { s with handler } indices route.endpoint p stage =
          tryStage s indices route.endpoint p stage := by
        cases stage <;> rfl
      have hnoted : noted? { s with handler } indices route.endpoint p.request p.parameters stage =
          noted? s indices route.endpoint p.request p.parameters stage := by
        cases stage <;> rfl
      rw [passStages_cons] at h
      rw [passStages_cons, passStages_cons, htry, hnoted]
      cases hstage : tryStage s indices route.endpoint p stage with
      | ok q =>
          simp only [hstage] at h ⊢
          rw [ih h]
      | error failure => rfl

/-! ## Whom a request is made for -/

theorem handOn?_identity (hstage : ∀ operation, stage ≠ .authorization operation)
    (h : handOn? s indices endpoint p stage = some q) : q.identity = p.identity := by
  cases handsOn_of_handOn? h with
  | admitted => exact absurd rfl (hstage _)
  | conventional | aimed => rfl

theorem handAllOn?_identity (hstages : ∀ operation, .authorization operation ∉ stages)
    (h : handAllOn? s indices endpoint stages p = some q) : q.identity = p.identity := by
  induction stages generalizing p with
  | nil => simp_all
  | cons stage stages ih =>
      rw [handAllOn?_cons, Option.bind_eq_some_iff] at h
      obtain ⟨p', hp', hq⟩ := h
      have hstage : ∀ operation, stage ≠ .authorization operation := fun operation heq =>
        hstages operation (heq ▸ List.mem_cons_self)
      rw [ih (fun operation hmem => hstages operation (List.mem_cons_of_mem _ hmem)) hq,
        handOn?_identity hstage hp']

/-! ## The stages of an access -/

theorem stages_of_operation? {access : Routing.Access} {operation : Security.Operation}
    (h : access.operation? = some operation) :
    ∃ rest, access.stages = .authorization operation :: rest ∧
      ∀ operation', .authorization operation' ∉ rest := by
  cases access <;> simp_all [Routing.Access.operation?, Routing.Access.stages]

theorem conventions_mem_stages {access : Routing.Access} :
    .conventions ∈ access.stages ↔ access.dialect = .elastic := by
  by_cases helastic : access.dialect = .elastic <;> simp [Routing.Access.stages, helastic]

theorem authorization_not_mem_stages {access : Routing.Access} (h : access.operation? = none)
    (operation : Security.Operation) : .authorization operation ∉ access.stages := by
  cases access <;> simp_all [Routing.Access.operation?, Routing.Access.stages]

theorem operation?_of_mem_stages {access : Routing.Access} {operation : Security.Operation}
    (h : .authorization operation ∈ access.stages) : access.operation? = some operation := by
  cases hoperation : access.operation? with
  | none => exact absurd h (authorization_not_mem_stages hoperation operation)
  | some other =>
      obtain ⟨rest, hstages, hrest⟩ := stages_of_operation? hoperation
      rcases List.mem_cons.1 (hstages ▸ h) with heq | hmem
      · cases heq
        rfl
      · exact absurd hmem (hrest operation)

theorem nodup_stages (access : Routing.Access) : access.stages.Nodup := by
  cases access with
  | anyone dialect => cases dialect <;> simp [Routing.Access.stages, Routing.Access.operation?,
      Routing.Access.policy?, Routing.Access.dialect]
  | permitted dialect operation => cases dialect <;> simp [Routing.Access.stages,
      Routing.Access.operation?, Routing.Access.policy?, Routing.Access.dialect]
  | resolving operation policy => simp [Routing.Access.stages, Routing.Access.operation?,
      Routing.Access.policy?, Routing.Access.dialect]

/-- The handler is called for a route that ends in it, for nobody in particular if anyone may take
the route and otherwise for the caller whom the guard admits. -/
theorem identity_of_call {request : Http.Request} {parameters : Option (Keyed String)}
    {r : OperationRequest} (h : (serveRoute s indices route request parameters).call = some r) :
    route.endpoint = .handler r.action ∧
      match route.access.operation? with
      | none => r.identity = none
      | some operation => s.guard.check request.headers operation = .ok r.identity := by
  rw [serveRoute, call_passStages, Option.bind_eq_some_iff] at h
  obtain ⟨q, hq, hcall⟩ := h
  obtain ⟨action, body, hendpoint, -, rfl⟩ := call_serveEndpoint_eq_some.1 hcall
  refine ⟨hendpoint, ?_⟩
  cases hoperation : route.access.operation? with
  | none => exact handAllOn?_identity (authorization_not_mem_stages hoperation) hq
  | some operation =>
      obtain ⟨rest, hstages, hrest⟩ := stages_of_operation? hoperation
      rw [hstages, handAllOn?_cons, Option.bind_eq_some_iff] at hq
      obtain ⟨p, hp, hq⟩ := hq
      obtain ⟨identity, hcheck, rfl⟩ := Option.map_eq_some_iff.1 hp
      have hidentity := handAllOn?_identity hrest hq
      simp only [Passage.operationRequest, hidentity]
      exact toOption_eq_some_iff.1 hcheck

end SearchGateway.Gateway
