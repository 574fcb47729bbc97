import SearchGateway.Proofs.Gateway.Passage

/-!
# Requests that do not reach the handler

Where the answer to such a request comes from is said once (`unreached_passStages`). It follows that
a request for the handler that does not reach it is answered with an error, and that only
authorization answers with the status 401 or 403 in the place of the handler.
-/

namespace SearchGateway.Gateway

open Routing (Dialect Endpoint Route Stage)

variable {s : Service} {indices : Registry.Snapshot} {route : Route} {endpoint : Endpoint}
  {stages : List Stage} {p : Passage}

/-! ## The responses to one failure -/

theorem status_render_ofDenial (denial : Security.Denial) (dialect : Dialect) :
    ((Failure.ofDenial denial).render dialect).status = 401 ∨
      ((Failure.ofDenial denial).render dialect).status = 403 := by
  cases denial with
  | noCredential | unknownCredential => cases dialect <;> exact .inl rfl
  | forbidden operation user => cases dialect <;> exact .inr rfl

theorem status_render_ofTargetError (e : Registry.TargetError) :
    ((Failure.ofTargetError e).render .elastic).status = 400 ∨
      ((Failure.ofTargetError e).render .elastic).status = 404 := by
  cases e with
  | nothingSelected expression => exact .inr rfl
  | wildcard name | severalMembers name | noTarget name => exact .inl rfl

theorem status_render_ofBodyError (e : Http.BodyError) (dialect : Dialect) :
    ((Failure.ofBodyError e).render dialect).status = 400 ∨
      ((Failure.ofBodyError e).render dialect).status = 413 := by
  cases e with
  | tooLong =>
      cases dialect with
      | native => exact .inr rfl
      | elastic => exact .inl rfl
  | broken reason => cases dialect <;> exact .inl rfl

/-! ## The conventions -/

theorem checkMediaType_status {headers : Http.Headers} {name : String} {failure : Elastic.Failure}
    (h : checkMediaType headers name = .error failure) : failure.status = 400 := by
  unfold checkMediaType at h
  split at h
  · cases h
  · split at h
    · cases h
    · rename_i e _
      cases h
      cases e <;> rfl

theorem keepConventions_status {request : Http.Request} {failure : Elastic.Failure}
    (h : keepConventions s endpoint request = .error failure) : failure.status = 400 := by
  unfold keepConventions at h
  simp only [bind_eq_error_iff, mapError_eq_error_iff, pure_eq_ok, reduceCtorEq, and_false,
    exists_false, or_false] at h
  rcases h with h | ⟨_, _, h | ⟨_, _, ⟨e, _, rfl⟩ | ⟨_, _, ⟨e, _, rfl⟩ | ⟨_, _, e, _, rfl⟩⟩⟩⟩
  · exact checkMediaType_status h
  · exact checkMediaType_status h
  · cases e <;> rfl
  · rfl
  · cases e <;> rfl

theorem status_of_unconventional {request : Http.Request} {failure : Elastic.Failure}
    (h : keepConventions s endpoint request = .error failure) :
    (nameProduct ((Failure.badRequest failure).render .elastic)).status = 400 :=
  keepConventions_status h

/-! ## Requests on their way -/

theorem status_dispatch {dialect : Dialect} {action : Routing.Action}
    (h : (dispatch s dialect action p).call = none) :
    (dispatch s dialect action p).response.status ∈ [400, 413] := by
  unfold dispatch at h ⊢
  cases hread : p.request.body.read s.maxBodySize with
  | ok body => simp [hread, callHandler] at h
  | error e =>
      simp only [Exchange.answered]
      rcases status_render_ofBodyError e dialect with hstatus | hstatus <;> simp [hstatus]

/-- The status of an answer without a call of the handler: it denies the caller, reports a request
that breaks a convention or a target that is refused, or comes from the endpoint. -/
inductive Unreached (s : Service) (route : Route) (stages : List Stage) : Nat → Prop where
  | denied {operation status} : .authorization operation ∈ stages → status ∈ [401, 403] →
      Unreached s route stages status
  | refused {status} : status ∈ [400, 404] → Unreached s route stages status
  | ended {q} : (serveEndpoint s route.access.dialect route.endpoint q).call = none →
      Unreached s route stages
        (serveEndpoint s route.access.dialect route.endpoint q).response.status

theorem Unreached.cons {stage : Stage} {status : Nat} (h : Unreached s route stages status) :
    Unreached s route (stage :: stages) status := by
  cases h with
  | denied hmem hstatus => exact .denied (List.mem_cons_of_mem _ hmem) hstatus
  | refused hstatus => exact .refused hstatus
  | ended hcall => exact .ended hcall

theorem unreached_refuse {stage : Stage} {failure : Failure}
    (h : tryStage s indices route.endpoint p stage = .error failure) :
    Unreached s route (stage :: stages) (refuse route.access.dialect failure stage).status := by
  cases stage with
  | authorization operation =>
      simp only [tryStage] at h
      split at h <;> cases h
      have hstatus := status_render_ofDenial ‹_› route.access.dialect
      exact .denied List.mem_cons_self (by simpa [refuse] using hstatus)
  | conventions =>
      simp only [tryStage] at h
      split at h <;> cases h
      rename_i hkept
      exact .refused (by simp [refuse, status_of_unconventional hkept])
  | targets policy =>
      simp only [tryStage] at h
      split at h
      · cases h
      · split at h <;> cases h
        have hstatus := status_render_ofTargetError ‹_›
        exact .refused (by simpa [refuse] using hstatus)

theorem unreached_passStages (h : (passStages s indices route stages p).call = none) :
    Unreached s route stages (passStages s indices route stages p).response.status := by
  induction stages generalizing p with
  | nil => exact .ended h
  | cons stage stages ih =>
      rw [passStages_cons] at h ⊢
      cases hstage : tryStage s indices route.endpoint p stage with
      | ok q =>
          simp only [hstage, Exchange.mapResponse, status_passBack] at h ⊢
          exact (ih h).cons
      | error failure => exact unreached_refuse hstage

/-- A request for the handler that does not reach it is answered with an error. -/
theorem Unreached.le_status {action : Routing.Action} {status : Nat}
    (h : Unreached s route stages status) (hendpoint : route.endpoint = .handler action) :
    400 ≤ status := by
  cases h with
  | denied _ hstatus | refused hstatus =>
      simp only [List.mem_cons, List.not_mem_nil, or_false] at hstatus
      omega
  | ended hcall =>
      rw [hendpoint] at hcall ⊢
      have hstatus := status_dispatch hcall
      simp only [List.mem_cons, List.not_mem_nil, or_false] at hstatus
      simp only [serveEndpoint]
      omega

/-- A request that passes authorization is not answered as denied unless the handler does so. -/
theorem Unreached.not_denied {status : Nat} (h : Unreached s route stages status)
    (hstages : ∀ operation, .authorization operation ∉ stages) : status ∉ [401, 403] := by
  cases h with
  | denied hmem _ => exact absurd hmem (hstages _)
  | refused hstatus =>
      simp only [List.mem_cons, List.not_mem_nil, or_false] at hstatus ⊢
      omega
  | ended hcall =>
      cases hendpoint : route.endpoint with
      | handler action =>
          rw [hendpoint] at hcall
          have hstatus := status_dispatch hcall
          simp only [serveEndpoint, List.mem_cons, List.not_mem_nil, or_false] at hstatus ⊢
          omega
      | _ => simp [serveEndpoint, Exchange.answered, Http.Response.ofJson, Http.Response.redirect]

/-! ## Routes with a guard -/

section

variable {request : Http.Request} {parameters : Option (Keyed String)}
  {operation : Security.Operation}

theorem serveRoute_of_denied {denial : Security.Denial}
    (hoperation : route.access.operation? = some operation)
    (hcheck : s.guard.check request.headers operation = .error denial) :
    serveRoute s indices route request parameters =
      .answered ((Failure.ofDenial denial).render route.access.dialect)
        [.denied operation (denialKind denial)] := by
  obtain ⟨rest, hstages, -⟩ := stages_of_operation? hoperation
  simp only [serveRoute, hstages, passStages, hcheck]

theorem status_of_admitted {identity : Option Security.Identity}
    (hoperation : route.access.operation? = some operation)
    (hcheck : s.guard.check request.headers operation = .ok identity)
    (h : (serveRoute s indices route request parameters).call = none) :
    (serveRoute s indices route request parameters).response.status ∉ [401, 403] := by
  obtain ⟨rest, hstages, hrest⟩ := stages_of_operation? hoperation
  simp only [serveRoute, hstages, passStages, hcheck] at h ⊢
  exact (unreached_passStages h).not_denied hrest

end

end SearchGateway.Gateway
