import SearchGateway.Proofs.Elastic.Payload
import SearchGateway.Proofs.Gateway.Handover

/-!
# Bodies that reach the handler

The Elasticsearch conventions read the body of a request whole and check it against the rule of the
endpoint before anything else sees it, and that decides which requests reach the handler
(`exists_call_elastic_iff`). The handler gets the bytes that were sent, and what it reads from them
is what the rule demands. A body that breaks its rule is answered with the envelope of a failure
(`Server.body_admitted`).
-/

namespace SearchGateway.Gateway

open Http (Request Response)
open Routing (Endpoint Pattern Route Table)

variable {s : Service} {indices : Registry.Snapshot} {route : Route} {endpoint : Endpoint}
  {request : Request} {response : Response} {parameters : Option (Keyed String)}
  {r : OperationRequest} {failure : Elastic.Failure}

theorem OperationRequest.toOption_json : r.json.toOption = (Json.read r.body).toOption := by
  unfold OperationRequest.json
  cases Json.read r.body <;> rfl

/-- The body of a request is what the rule of an endpoint demands. -/
def KeepsRule (endpoint : Endpoint) (request : Request) : Prop :=
  endpoint.payload.Admits request.body.sent (Json.read request.body.sent).toOption

/-- A request has what the conventions demand at every endpoint. -/
structure Conventional (s : Service) (request : Request) : Prop where
  contentType : checkMediaType request.headers "content-type" = .ok ()
  accept : checkMediaType request.headers "accept" = .ok ()
  query : ∃ query, Elastic.Query.ofPairs (Http.formPairs request.query) = .ok query
  body : ∃ body, request.body.read s.maxBodySize = .ok body

/-! ## The conventions -/

theorem keepsRule_of_keepConventions {query : Elastic.Query} {body : Bytes}
    (h : keepConventions s endpoint request = .ok (query, body)) : KeepsRule endpoint request := by
  obtain ⟨-, hread, hcheck⟩ := keepConventions_eq_ok h
  obtain ⟨-, rfl, -⟩ := Http.Body.read_eq_ok_iff.1 hread
  exact Elastic.Payload.check_eq_ok_iff.1 hcheck

theorem conventional_of_keepConventions {query : Elastic.Query} {body : Bytes}
    (h : keepConventions s endpoint request = .ok (query, body)) : Conventional s request := by
  obtain ⟨hquery, hread, -⟩ := keepConventions_eq_ok h
  unfold keepConventions at h
  simp only [bind_eq_ok_iff] at h
  obtain ⟨_, htype, _, haccept, -⟩ := h
  exact ⟨htype, haccept, ⟨query, hquery⟩, ⟨body, hread⟩⟩

theorem passes_conventions_iff :
    Passes s indices endpoint request parameters .conventions ↔
      Conventional s request ∧ KeepsRule endpoint request := by
  constructor
  · rintro ⟨⟨query, body⟩, hkept⟩
    exact ⟨conventional_of_keepConventions hkept, keepsRule_of_keepConventions hkept⟩
  · rintro ⟨⟨htype, haccept, ⟨query, hquery⟩, ⟨body, hread⟩⟩, hrule⟩
    obtain ⟨-, rfl, -⟩ := Http.Body.read_eq_ok_iff.1 hread
    have hcheck := Elastic.Payload.check_eq_ok_iff.2 hrule
    refine ⟨(query, request.body.sent), ?_⟩
    simp only [keepConventions, htype, haccept, hquery, hread, hcheck, Except.mapError, ok_bind]
    rfl

/-- The handler is called in the Elasticsearch dialect exactly for the requests that keep the
conventions and the rule of their endpoint and that the other stages have nothing against. -/
theorem exists_call_elastic_iff {action : Routing.Action}
    (hdialect : route.access.dialect = .elastic) (hendpoint : route.endpoint = .handler action) :
    (∃ r, (serveRoute s indices route request parameters).call = some r) ↔
      Conventional s request ∧ KeepsRule route.endpoint request ∧
        ∀ stage ∈ route.access.stages, stage ≠ .conventions →
          Passes s indices route.endpoint request parameters stage := by
  rw [exists_call_iff hendpoint]
  constructor
  · rintro ⟨hpasses, -⟩
    obtain ⟨hconventional, hrule⟩ :=
      passes_conventions_iff.1 (hpasses .conventions (conventions_mem_stages.2 hdialect))
    exact ⟨hconventional, hrule, fun stage hstage _ => hpasses stage hstage⟩
  · rintro ⟨hconventional, hrule, hothers⟩
    refine ⟨fun stage hstage => ?_, hconventional.body⟩
    by_cases hsame : stage = .conventions
    · rw [hsame]
      exact passes_conventions_iff.2 ⟨hconventional, hrule⟩
    · exact hothers stage hstage hsame

theorem serveRoute_of_not_keepsRule (indices : Registry.Snapshot)
    (parameters : Option (Keyed String)) (hdialect : route.access.dialect = .elastic)
    (hrule : ¬ KeepsRule route.endpoint request) (hadmitted : ¬ Denies s.guard route request) :
    ∃ failure : Elastic.Failure, failure.status = 400 ∧
      serveRoute s indices route request parameters =
        .answered (nameProduct failure.response) [.refused failure.type] := by
  obtain ⟨rest, p, hserve, rfl⟩ :=
    serveRoute_of_not_denied indices parameters hdialect hadmitted
  cases hkept : keepConventions s route.endpoint p.request with
  | ok kept => exact absurd (keepsRule_of_keepConventions hkept) hrule
  | error failure =>
      refine ⟨failure, keepConventions_status hkept, ?_⟩
      rw [hserve, passStages]
      simp only [hkept]
      rfl

/-! ## Failures in their envelope -/

/-- A response is the envelope of a failure. -/
structure Reports (response : Response) (failure : Elastic.Failure) : Prop where
  status : response.status = failure.status
  contentType : response.headers.values "content-type" = [Text.Utf8.encode "application/json"]
  body : response.body = Text.Utf8.encode failure.envelope.compact

theorem reports_response : Reports failure.response failure := by
  constructor
  · rfl
  · simp [Elastic.Failure.response, Response.ofJson]
  · rw [Elastic.Failure.response, Response.ofJson]

theorem Reports.nameProduct (h : Reports response failure) :
    Reports (nameProduct response) failure :=
  ⟨h.status, (Http.Headers.values_set_of_ne (by decide)).trans h.contentType, h.body⟩

theorem Reports.stamp {origins : Http.OriginPolicy} (h : Reports response failure) :
    Reports (origins.stamp request response) failure :=
  ⟨h.status, (Http.OriginPolicy.values_stamp (by decide)).trans h.contentType, h.body⟩

theorem Reports.asSent {method : Http.Method} (hmethod : method ≠ .head)
    (h : Reports response failure) : Reports (asSent method response) failure := by
  rw [Gateway.asSent, if_neg hmethod]
  exact ⟨Response.status_withLength.trans h.status,
    (Response.values_withLength (by decide)).trans h.contentType,
    Response.body_withLength.trans h.body⟩

/-! ## The routes of the standard table -/

theorem method_of_payload {table : Table} (htable : Table.standard = .ok table)
    (hroute : route ∈ table.routes) (hrule : route.endpoint.payload ≠ .ignored) :
    route.method ≠ .get ∧ route.method ≠ .head := by
  have hall : ∀ route ∈ Routing.standardRoutes.flatMap Routing.Declaration.routes,
      route.endpoint.payload ≠ .ignored → route.method ≠ .get ∧ route.method ≠ .head := by
    decide +kernel
  exact hall route (Table.routes_of_build htable ▸ hroute) hrule

namespace Server

variable {settings : Settings} {metrics : Bool} {server : Server} {pieces : List String}

theorem method_of_not_keepsRule (hserver : Server.standard settings s metrics = .ok server)
    (hmatched : server.matchedRoute? request = some (route, pieces))
    (hrule : ¬ KeepsRule route.endpoint request) : request.method ≠ .head := by
  have hpayload : route.endpoint.payload ≠ .ignored := by
    intro hignored
    exact hrule (by rw [KeepsRule, hignored]; trivial)
  have hroute := (matchedRoute?_eq_some hmatched).2
  obtain ⟨hget, hhead⟩ :=
    method_of_payload (standard_eq_ok hserver).2 (mem_routes_of_matched hroute) hpayload
  rcases (declaredFor_of_matched hroute).method with hmethod | ⟨-, hmethod⟩
  · rwa [← hmethod]
  · exact absurd hmethod hget

/-- If the handler is called for a request at a route of the Elasticsearch dialect, then with the
bytes that were sent as the body, and they are what the rule of the endpoint demands of them and of
the document that the handler reads from them. If the body is not what the rule demands and the
caller is not denied, then the handler is not called, and the answer is the envelope of a failure
with the status 400. Nothing else about a body that can be read keeps a request from the handler. -/
theorem body_admitted (hserver : Server.standard settings s metrics = .ok server)
    (hmatched : server.matchedRoute? request = some (route, pieces))
    (hdialect : route.access.dialect = .elastic) (world : World) :
    (∀ r, (server.serve world request).call = some r →
      request.body.failure = none ∧ r.body = request.body.sent ∧
        route.endpoint.payload.Admits r.body r.json.toOption) ∧
    (¬ KeepsRule route.endpoint request → ¬ Denies s.guard route request →
      (server.serve world request).call = none ∧
        ∃ failure, failure.status = 400 ∧
          Reports (server.serve world request).response failure) ∧
    (∀ action, route.endpoint = .handler action →
      ((∃ r, (server.serve world request).call = some r) ↔
        Conventional s request ∧ KeepsRule route.endpoint request ∧
          ∀ stage ∈ route.access.stages, stage ≠ .conventions →
            Passes s world.indices route.endpoint request
              (pathParameters (Pattern.ofPath route.path) pieces) stage)) := by
  obtain ⟨rfl, -⟩ := standard_eq_ok hserver
  refine ⟨?_, ?_, ?_⟩
  · intro r hr
    rw [call_serve_of_matched world hmatched] at hr
    obtain ⟨hfailure, hbody, -⟩ := Http.Body.read_eq_ok_iff.1 (carries_of_call hr).body
    rw [OperationRequest.toOption_json, hbody]
    have hcalled := (exists_call_elastic_iff hdialect (identity_of_call hr).1).1 ⟨r, hr⟩
    exact ⟨hfailure, rfl, hcalled.2.1⟩
  · intro hrule hadmitted
    have hmethod := method_of_not_keepsRule hserver hmatched hrule
    obtain ⟨failure, hstatus, hserve⟩ := serveRoute_of_not_keepsRule world.indices
      (pathParameters (Pattern.ofPath route.path) pieces) hdialect hrule hadmitted
    rw [serve_of_answered world hmatched hserve]
    exact ⟨rfl, failure, hstatus, reports_response.nameProduct.stamp.asSent hmethod⟩
  · intro action hendpoint
    rw [call_serve_of_matched world hmatched]
    exact exists_call_elastic_iff hdialect hendpoint

/-! ## Bulk requests -/

/-- A bulk request with a body that arrives in these pieces. -/
def bulk (pieces : List String) : Request where
  method := .post
  path := "/es/_bulk"
  query := ""
  headers := []
  body := ⟨pieces.map Text.Utf8.encode, none⟩

/-- A bulk body reaches the handler in one piece. If one of its lines is broken, it is reported. -/
theorem body_admitted_bulk :
    Server.standard default (idleService openGuard) true = .ok openGateway ∧
    (∀ lines, openGateway.matchedRoute? (bulk lines) = some (bulkRoute, ["es", "_bulk"])) ∧
    bulkRoute.access.dialect = .elastic ∧
    (∃ r, (openGateway.serve logsWorld (bulk ["\x7b\x7d\n\x0C\n[", "1]\n"])).call = some r ∧
      r.body = Text.Utf8.encode "\x7b\x7d\n\x0C\n[1]\n" ∧ Elastic.HoldsDocuments r.body) ∧
    (openGateway.serve logsWorld (bulk ["\x7b\x7d\n[", "1\n]\n"])).call = none ∧
    ∃ failure, failure.status = 400 ∧
      Reports (openGateway.serve logsWorld (bulk ["\x7b\x7d\n[", "1\n]\n"])).response failure := by
  have hserver : Server.standard default (idleService openGuard) true = .ok openGateway :=
    standard_eq_gateway default (idleService openGuard) true
  have hmatched (lines : List String) :
      openGateway.matchedRoute? (bulk lines) = some (bulkRoute, ["es", "_bulk"]) :=
    matched_takenPaths _ _ ("/es/_bulk", _) (by simp [takenPaths]) rfl rfl
  have hcall : (serveMatched (idleService openGuard) logsWorld
      (bulk ["\x7b\x7d\n\x0C\n[", "1]\n"]) bulkRoute ["es", "_bulk"]).call.isSome := by
    decide +kernel
  obtain ⟨r, hr⟩ := Option.isSome_iff_exists.1 hcall
  have hr := (call_serve_of_matched logsWorld (hmatched _)).trans hr
  obtain ⟨-, hbody, -, -, hlines⟩ := (body_admitted hserver (hmatched _) rfl logsWorld).1 r hr
  have hsent : (bulk ["\x7b\x7d\n\x0C\n[", "1]\n"]).body.sent =
      Text.Utf8.encode "\x7b\x7d\n\x0C\n[1]\n" := by
    decide +kernel
  have hbroken : ¬ KeepsRule bulkRoute.endpoint (bulk ["\x7b\x7d\n[", "1\n]\n"]) := by
    intro hrule
    have hcheck := Elastic.Payload.check_eq_ok_iff.2 hrule
    exact absurd hcheck (by decide +kernel)
  have hadmitted : ¬ Denies openGuard bulkRoute (bulk ["\x7b\x7d\n[", "1\n]\n"]) := by
    rintro ⟨operation, denial, -, hcheck⟩
    cases hcheck
  exact ⟨hserver, hmatched, rfl, ⟨r, hr, hbody.trans hsent, hlines⟩,
    (body_admitted hserver (hmatched _) rfl logsWorld).2.1 hbroken hadmitted⟩

end Server

end SearchGateway.Gateway
