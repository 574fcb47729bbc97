import SearchGateway.Proofs.Elastic.Query
import SearchGateway.Proofs.Gateway.ProductHeader

/-!
# What is handed to the handler

The stages check a request and add to it, but they keep its method, its headers, the text of its
body and the parameters of its path. Only the Elasticsearch conventions change its query, and only
by bringing it to normal form. So the handler gets the same for requests that differ in their
dialect (`Server.handover_agrees`).
-/

namespace SearchGateway.Gateway

open Http (Request)
open Elastic (neutral)
open Routing (Access Endpoint Pattern Route Stage)

variable {s : Service} {indices : Registry.Snapshot} {route : Route} {endpoint : Endpoint}
  {stage : Stage} {stages : List Stage} {p q : Passage} {request : Request}
  {parameters : Option (Keyed String)} {r : OperationRequest}

/-! ## What stages keep -/

/-- What a request on its way has in common with the one that set out. -/
structure Keeps (s : Service) (p q : Passage) : Prop where
  method : q.request.method = p.request.method
  headers : q.request.headers = p.request.headers
  query : q.request.query = p.request.query
  body : q.request.body.read s.maxBodySize = p.request.body.read s.maxBodySize
  parameters : q.parameters = p.parameters

theorem Keeps.refl : Keeps s p p := ⟨rfl, rfl, rfl, rfl, rfl⟩

theorem Keeps.trans {p' : Passage} (h : Keeps s p p') (h' : Keeps s p' q) : Keeps s p q where
  method := h'.method.trans h.method
  headers := h'.headers.trans h.headers
  query := h'.query.trans h.query
  body := h'.body.trans h.body
  parameters := h'.parameters.trans h.parameters

theorem keeps_of_handOn? (h : handOn? s indices endpoint p stage = some q) : Keeps s p q := by
  cases handsOn_of_handOn? h with
  | conventional hkept =>
      have hread := (keepConventions_eq_ok hkept).2.1
      exact ⟨rfl, rfl, rfl, (Http.Body.read_ofBytes hread).trans hread.symm, rfl⟩
  | admitted | aimed => exact ⟨rfl, rfl, rfl, rfl, rfl⟩

theorem keeps_of_handAllOn? (h : handAllOn? s indices endpoint stages p = some q) :
    Keeps s p q := by
  induction stages generalizing p with
  | nil =>
      cases h
      exact .refl
  | cons stage stages ih =>
      rw [handAllOn?_cons, Option.bind_eq_some_iff] at h
      obtain ⟨p', hp', hq⟩ := h
      exact (keeps_of_handOn? hp').trans (ih hq)

/-! ## The query -/

theorem query_of_handOn? (h : handOn? s indices endpoint p stage = some q) :
    q.query =
      if stage = .conventions then some (neutral (plainQuery p.request.query)) else p.query := by
  cases handsOn_of_handOn? h with
  | conventional hkept =>
      exact congrArg some (Elastic.Query.parameters_ofPairs (keepConventions_eq_ok hkept).1)
  | admitted | aimed => rfl

theorem query_of_handAllOn? (h : handAllOn? s indices endpoint stages p = some q) :
    q.query =
      if .conventions ∈ stages then some (neutral (plainQuery p.request.query))
      else p.query := by
  induction stages generalizing p with
  | nil =>
      cases h
      rfl
  | cons stage stages ih =>
      rw [handAllOn?_cons, Option.bind_eq_some_iff] at h
      obtain ⟨p', hp', hq⟩ := h
      rw [ih hq, (keeps_of_handOn? hp').query, query_of_handOn? hp']
      by_cases hrest : .conventions ∈ stages
      · simp [hrest]
      · by_cases hstage : stage = .conventions <;> simp [hrest, hstage, eq_comm]

/-! ## Which requests pass -/

/-- A stage has nothing against a request. -/
def Passes (s : Service) (indices : Registry.Snapshot) (endpoint : Endpoint) (request : Request)
    (parameters : Option (Keyed String)) : Stage → Prop
  | .authorization operation => ∃ identity, s.guard.check request.headers operation = .ok identity
  | .conventions => ∃ kept, keepConventions s endpoint request = .ok kept
  | .targets policy => ∀ expression, parameters.bind (·.get? "target") = some expression →
      ∃ targets, indices.select policy expression = .ok targets

theorem isSome_handOn? :
    (handOn? s indices endpoint p stage).isSome ↔
      Passes s indices endpoint p.request p.parameters stage := by
  cases stage with
  | authorization operation =>
      simp [handOn?, Passes, Option.isSome_iff_exists, toOption_eq_some_iff]
  | conventions =>
      simp [handOn?, Passes, Option.isSome_iff_exists, toOption_eq_some_iff]
  | targets policy =>
      simp only [handOn?, Passes]
      cases p.parameters.bind (·.get? "target") with
      | none => simp
      | some expression => simp [Option.isSome_iff_exists, toOption_eq_some_iff]

theorem keepConventions_congr {request' : Request} (hheaders : request'.headers = request.headers)
    (hquery : request'.query = request.query)
    (hbody : request'.body.read s.maxBodySize = request.body.read s.maxBodySize) :
    keepConventions s endpoint request' = keepConventions s endpoint request := by
  simp only [keepConventions, hheaders, hquery, hbody]

theorem Keeps.passes_iff (h : Keeps s p q) :
    Passes s indices endpoint q.request q.parameters stage ↔
      Passes s indices endpoint p.request p.parameters stage := by
  cases stage with
  | authorization operation => simp only [Passes, h.headers]
  | conventions => simp only [Passes, keepConventions_congr h.headers h.query h.body]
  | targets policy => simp only [Passes, h.parameters]

theorem isSome_handAllOn? :
    (handAllOn? s indices endpoint stages p).isSome ↔
      ∀ stage ∈ stages, Passes s indices endpoint p.request p.parameters stage := by
  induction stages generalizing p with
  | nil => simp
  | cons stage stages ih =>
      rw [handAllOn?_cons, List.forall_mem_cons, ← isSome_handOn?]
      cases hp : handOn? s indices endpoint p stage with
      | none => simp
      | some p' =>
          have hkeeps := keeps_of_handOn? hp
          simp only [Option.bind_some, ih, hkeeps.passes_iff, Option.isSome_some, true_and]

/-! ## Calls of the handler -/

/-- The handler is called exactly for the requests that pass every stage and whose body can be
read. -/
theorem exists_call_iff {action : Routing.Action} (hendpoint : route.endpoint = .handler action) :
    (∃ r, (serveRoute s indices route request parameters).call = some r) ↔
      (∀ stage ∈ route.access.stages, Passes s indices route.endpoint request parameters stage) ∧
        ∃ body, request.body.read s.maxBodySize = .ok body := by
  rw [serveRoute, call_passStages]
  constructor
  · rintro ⟨r, hr⟩
    obtain ⟨q, hq, hcall⟩ := Option.bind_eq_some_iff.1 hr
    obtain ⟨_, body, -, hread, -⟩ := call_serveEndpoint_eq_some.1 hcall
    exact ⟨isSome_handAllOn?.1 (Option.isSome_iff_exists.2 ⟨q, hq⟩), body,
      (keeps_of_handAllOn? hq).body ▸ hread⟩
  · rintro ⟨hpasses, body, hread⟩
    obtain ⟨q, hq⟩ := Option.isSome_iff_exists.1
      ((isSome_handAllOn? (p := { request, parameters })).2 hpasses)
    have hread' := (keeps_of_handAllOn? hq).body.trans hread
    exact ⟨_, Option.bind_eq_some_iff.2
      ⟨q, hq, call_serveEndpoint_eq_some.2 ⟨action, body, hendpoint, hread', rfl⟩⟩⟩

/-- The handler gets what a request carries. -/
structure Carries (s : Service) (access : Access) (request : Request)
    (parameters : Option (Keyed String)) (r : OperationRequest) : Prop where
  method : r.method = request.method
  parameters : r.parameters = parameters.getD .empty
  body : request.body.read s.maxBodySize = .ok r.body
  query : r.query = if access.dialect = .elastic then neutral (plainQuery request.query)
    else plainQuery request.query
  identity : access.operation?.isSome → r.identity = s.guard.caller? request.headers

theorem carries_of_call (h : (serveRoute s indices route request parameters).call = some r) :
    Carries s route.access request parameters r := by
  have hidentity := (identity_of_call h).2
  rw [serveRoute, call_passStages] at h
  obtain ⟨q, hq, hcall⟩ := Option.bind_eq_some_iff.1 h
  obtain ⟨action, body, -, hread, rfl⟩ := call_serveEndpoint_eq_some.1 hcall
  have hkeeps := keeps_of_handAllOn? hq
  constructor
  · exact hkeeps.method
  · exact congrArg (·.getD Keyed.empty) hkeeps.parameters
  · exact hkeeps.body ▸ hread
  · simp only [Passage.operationRequest, query_of_handAllOn? hq, hkeeps.query,
      conventions_mem_stages]
    split <;> rfl
  · intro hoperation
    obtain ⟨operation, hoperation⟩ := Option.isSome_iff_exists.1 hoperation
    rw [hoperation] at hidentity
    exact Security.Guard.eq_caller?_of_check hidentity

/-! ## Two dialects -/

/-- Two requests that differ at most in their paths and in headers about other things than the
caller. -/
structure SameInput (request request' : Request) : Prop where
  method : request'.method = request.method
  query : request'.query = request.query
  body : ∀ limit, request'.body.read limit = request.body.read limit
  credential : request'.headers.first? "authorization" = request.headers.first? "authorization"

/-- What the handler is handed by two routes is the same but for the query, which one dialect brings
to normal form. -/
structure Agrees (access access' : Access) (r r' : OperationRequest) : Prop where
  method : r'.method = r.method
  parameters : r'.parameters = r.parameters
  body : r'.body = r.body
  identity : access.operation?.isSome → access'.operation?.isSome → r'.identity = r.identity
  sameDialect : access'.dialect = access.dialect → r'.query = r.query
  normalForm : access.dialect = .native → access'.dialect = .elastic → r'.query = neutral r.query
  ordinary : (∀ name ∈ Elastic.specialNames, r.query.get? name = none) →
    access.dialect = .native → r'.query = r.query

variable {request' : Request} {access access' : Access} {r' : OperationRequest}

theorem Carries.agrees (hinput : SameInput request request')
    (h : Carries s access request parameters r) (h' : Carries s access' request' parameters r') :
    Agrees access access' r r' := by
  have hnormal : access.dialect = .native → access'.dialect = .elastic →
      r'.query = neutral r.query := by
    intro hdialect hdialect'
    rw [h.query, h'.query, hdialect, hdialect', hinput.query]
    rfl
  have hsame : access'.dialect = access.dialect → r'.query = r.query := fun hdialect => by
    rw [h.query, h'.query, hdialect, hinput.query]
  constructor
  · rw [h.method, h'.method, hinput.method]
  · rw [h.parameters, h'.parameters]
  · have hbody := (hinput.body _).symm.trans h'.body
    exact (Except.ok.inj (h.body.symm.trans hbody)).symm
  · intro hoperation hoperation'
    rw [h.identity hoperation, h'.identity hoperation',
      Security.Guard.caller?_congr hinput.credential]
  · exact hsame
  · exact hnormal
  · intro hordinary hdialect
    cases hdialect' : access'.dialect with
    | native => exact hsame (hdialect'.trans hdialect.symm)
    | elastic => rw [hnormal hdialect hdialect', Elastic.neutral_eq_self hordinary]

namespace Server

variable {server : Server} {route' : Route} {pieces pieces' : List String}

/-- Requests with the same input and the same parameters in their paths lead to calls of the handler
that agree, whichever routes they take. If the handler is called for the first one, it is called for
the second one exactly if this one passes the stages of its own route. -/
theorem handover_agrees (hmatched : server.matchedRoute? request = some (route, pieces))
    (hmatched' : server.matchedRoute? request' = some (route', pieces'))
    (hinput : SameInput request request')
    (hparameters : pathParameters (Pattern.ofPath route'.path) pieces' =
      pathParameters (Pattern.ofPath route.path) pieces) (world world' : World) :
    (∀ r r', (server.serve world request).call = some r →
      (server.serve world' request').call = some r' → Agrees route.access route'.access r r') ∧
    (∀ r action, (server.serve world request).call = some r →
      route'.endpoint = .handler action →
        ((∃ r', (server.serve world' request').call = some r') ↔
          ∀ stage ∈ route'.access.stages,
            Passes server.router.service world'.indices route'.endpoint request'
              (pathParameters (Pattern.ofPath route'.path) pieces') stage)) := by
  simp only [call_serve_of_matched _ hmatched, call_serve_of_matched _ hmatched', serveMatched,
    hparameters]
  constructor
  · intro r r' hr hr'
    exact (carries_of_call hr).agrees hinput (carries_of_call hr')
  · intro r action hr hendpoint
    have hread := (hinput.body _).trans (carries_of_call hr).body
    rw [exists_call_iff hendpoint]
    exact and_iff_left ⟨_, hread⟩

/-- Someone who may do everything. -/
def alice : Security.Identity := ⟨"alice", ["editor"], "key-1"⟩

def aliceGuard : Security.Guard :=
  ⟨true, fun _ => some alice, .ofList [("editor", ["*"])], .ofTokens⟩

def aliceGateway : Server :=
  gateway default (idleService aliceGuard) true

/-- A deletion with parameters that the dialects treat differently. -/
def nativeDeletion : Request :=
  { deletion "/api/logs/_doc/1" editorHeaders with query := "pretty&refresh=wait_for" }

/-- The same deletion in the other dialect, with one more header. -/
def elasticDeletion : Request :=
  { nativeDeletion with
    path := "/es/logs/_doc/1"
    headers := ("accept", Text.Utf8.encode "text/plain") :: editorHeaders }

/-- A deletion is handed over alike, whichever the dialect and the media type. -/
theorem handover_agrees_deletion :
    ∃ r r', (aliceGateway.serve logsWorld nativeDeletion).call = some r ∧
      (aliceGateway.serve logsWorld elasticDeletion).call = some r' ∧
      Agrees nativeDeletionRoute.access deletionRoute.access r r' ∧
      r.query = .ofList [("pretty", ""), ("refresh", "wait_for")] ∧
      r'.query = .ofList [("refresh", "true")] ∧ r'.identity = some alice := by
  have hmatched : aliceGateway.matchedRoute? nativeDeletion =
      some (nativeDeletionRoute, ["api", "logs", "_doc", "1"]) :=
    matched_takenPaths _ _ ("/api/logs/_doc/1", _) (by simp [takenPaths]) rfl rfl
  have hsame : aliceGateway.matchedRoute? elasticDeletion =
      aliceGateway.matchedRoute? (deletion "/es/logs/_doc/1" []) :=
    matchedRoute?_congr rfl rfl
  have hmatched' := hsame.trans (matched_deletion default (idleService aliceGuard))
  have hinput : SameInput nativeDeletion elasticDeletion :=
    ⟨rfl, rfl, fun _ => rfl, by decide +kernel⟩
  have hparameters :
      pathParameters (Pattern.ofPath deletionRoute.path) ["es", "logs", "_doc", "1"] =
        pathParameters (Pattern.ofPath nativeDeletionRoute.path) ["api", "logs", "_doc", "1"] := by
    decide +kernel
  have hquery : (serveMatched (idleService aliceGuard) logsWorld nativeDeletion
      nativeDeletionRoute ["api", "logs", "_doc", "1"]).call.map (·.query) =
        some (.ofList [("pretty", ""), ("refresh", "wait_for")]) := by
    decide +kernel
  have hquery' : (serveMatched (idleService aliceGuard) logsWorld elasticDeletion
      deletionRoute ["es", "logs", "_doc", "1"]).call.map (fun r => (r.query, r.identity)) =
        some (.ofList [("refresh", "true")], some alice) := by
    decide +kernel
  obtain ⟨r, hr, hplain⟩ := Option.map_eq_some_iff.1 hquery
  obtain ⟨r', hr', hnormal⟩ := Option.map_eq_some_iff.1 hquery'
  have hr := (call_serve_of_matched logsWorld hmatched).trans hr
  have hr' := (call_serve_of_matched logsWorld hmatched').trans hr'
  have hagrees := (handover_agrees hmatched hmatched' hinput hparameters logsWorld logsWorld).1
  exact ⟨r, r', hr, hr', hagrees r r' hr hr', hplain, congrArg Prod.fst hnormal,
    congrArg Prod.snd hnormal⟩

end Server

end SearchGateway.Gateway
