import SearchGateway.Proofs.Gateway.Handover
import SearchGateway.Proofs.Json.Depth

/-!
# What a response shows of the handler's outcome

The native dialect sends an outcome as it is, and so does the Elasticsearch dialect unless a request
asks for an indented body. An indented body says the same as the compact one, and everything else
about the response stays (`Server.outcome_shown`).
-/

namespace SearchGateway.Gateway

open Http (Headers Request Response)
open Elastic (asksPretty)
open Routing (Dialect Route Stage)

/-! ## Outcomes -/

def outcomeStatus : Outcome → Nat
  | .ok reply => reply.status
  | .error e => e.status

def outcomeBody? : Outcome → Option Json
  | .ok reply => reply.body
  | .error e => some e.body

/-- The bytes of a document without blanks; none for a missing document. -/
def compactBytes (document? : Option Json) : Bytes :=
  match document? with
  | some document => Text.Utf8.encode document.compact
  | none => []

variable {s : Service} {indices : Registry.Snapshot} {route : Route} {stages : List Stage}
  {p : Passage} {request : Request} {response : Response} {outcome : Outcome} {v : Json}
  {r : OperationRequest}

theorem respondWith_of_some (h : outcomeBody? outcome = some v) :
    respondWith outcome = .ofJson (outcomeStatus outcome) v := by
  match outcome with
  | .ok ⟨status, some body⟩ =>
      cases h
      rfl
  | .error e =>
      cases h
      rfl

theorem respondWith_of_none (h : outcomeBody? outcome = none) :
    respondWith outcome = .ofStatus (outcomeStatus outcome) := by
  match outcome with
  | .ok ⟨status, none⟩ => rfl

theorem status_respondWith : (respondWith outcome).status = outcomeStatus outcome := by
  cases h : outcomeBody? outcome with
  | some v => rw [respondWith_of_some h]; rfl
  | none => rw [respondWith_of_none h]; rfl

theorem body_respondWith : (respondWith outcome).body = compactBytes (outcomeBody? outcome) := by
  cases h : outcomeBody? outcome with
  | some v => rw [respondWith_of_some h]; rfl
  | none => rw [respondWith_of_none h]; rfl

theorem values_respondWith {name : String} (hname : name ≠ "content-type") :
    (respondWith outcome).headers.values name = [] := by
  cases h : outcomeBody? outcome with
  | some v =>
      rw [respondWith_of_some h]
      exact Headers.values_eq_nil (by simpa [Response.ofJson] using Ne.symm hname)
  | none => rw [respondWith_of_none h]; rfl

/-! ## Indenting -/

theorem isJson_ofJson {status : Nat} : isJson (.ofJson status v) = true := by
  have hsame : isJson (.ofJson status v) = isJson (.ofJson 200 .null) := rfl
  rw [hsame]
  decide +kernel

@[simp] theorem headers_indent : (indent response).headers = response.headers := by
  unfold indent
  split
  · split <;> rfl
  · rfl

theorem indent_respondWith_of_none (h : outcomeBody? outcome = none) :
    indent (respondWith outcome) = respondWith outcome := by
  rw [respondWith_of_none h]
  rfl

theorem body_indent_respondWith (h : outcomeBody? outcome = some v) :
    (indent (respondWith outcome)).body =
      match Json.read (Text.Utf8.encode v.compact) with
      | .ok document => Text.Utf8.encode (document.pretty ++ "\n")
      | .error _ => Text.Utf8.encode v.compact := by
  rw [respondWith_of_some h, indent, if_pos isJson_ofJson, Response.ofJson]
  cases Json.read (Text.Utf8.encode v.compact) <;> rfl

/-- A value that nests no deeper than the reader goes is indented, and the indented text is read as
the same value. -/
theorem body_indent_of_shallow (h : outcomeBody? outcome = some v) (hexact : v.IsExact)
    (hdepth : v.nesting < Json.maxDepth) :
    (indent (respondWith outcome)).body = Text.Utf8.encode (v.ordered.pretty ++ "\n") ∧
      Json.read (indent (respondWith outcome)).body = .ok v.ordered := by
  have hbody : (indent (respondWith outcome)).body =
      Text.Utf8.encode (v.ordered.pretty ++ "\n") := by
    rw [body_indent_respondWith h, Json.read_compact hexact hdepth]
  refine ⟨hbody, ?_⟩
  have hdepth' := Nat.lt_of_le_of_lt (Json.nesting_ordered_le v) hdepth
  rw [hbody, Json.read_pretty hexact.ordered hdepth', Json.ordered_ordered]

theorem body_indent_of_deep (h : outcomeBody? outcome = some v)
    (hdepth : Json.maxDepth ≤ v.nesting) :
    (indent (respondWith outcome)).body = Text.Utf8.encode v.compact := by
  obtain ⟨e, he⟩ := Json.read_compact_deep hdepth
  rw [body_indent_respondWith h, he]

/-! ## What the stages make of a response -/

/-- What is shown of an outcome in a dialect. -/
def shown (dialect : Dialect) (query : String) (outcome : Outcome) : Response :=
  match dialect with
  | .native => respondWith outcome
  | .elastic => present (asksPretty (plainQuery query)) (respondWith outcome)

/-- The answer to a call of the handler is changed by the conventions only. -/
theorem response_passStages (hnodup : stages.Nodup)
    (h : (passStages s indices route stages p).call = some r) :
    (passStages s indices route stages p).response =
      if .conventions ∈ stages then shown .elastic p.request.query (s.handler r).outcome
      else shown .native p.request.query (s.handler r).outcome := by
  induction stages generalizing p with
  | nil =>
      obtain ⟨action, body, hendpoint, hread, rfl⟩ := call_serveEndpoint_eq_some.1 h
      simp only [passStages, hendpoint, serveEndpoint, dispatch, hread]
      rfl
  | cons stage stages ih =>
      -- A second time the conventions would shape the response once more.
      obtain ⟨hstage, hrest⟩ := List.nodup_cons.1 hnodup
      rw [passStages_cons] at h ⊢
      cases hq : tryStage s indices route.endpoint p stage with
      | ok q =>
          have hkeeps := keeps_of_handOn? (handOn?_eq.trans (congrArg Except.toOption hq))
          simp only [hq, Exchange.mapResponse] at h ⊢
          rw [ih hrest h, hkeeps.query]
          cases stage with
          | conventions => simp [passBack, shown, hstage]
          | authorization operation | targets policy => simp [passBack]
      | error failure =>
          rw [hq] at h
          cases h

theorem response_serveRoute {parameters : Option (Keyed String)}
    (h : (serveRoute s indices route request parameters).call = some r) :
    (serveRoute s indices route request parameters).response =
      shown route.access.dialect request.query (s.handler r).outcome := by
  have hresponse := response_passStages (nodup_stages route.access) h
  simp only [conventions_mem_stages] at hresponse
  rw [serveRoute, hresponse]
  cases route.access.dialect <;> rfl

/-! ## What is shown -/

variable {dialect : Dialect} {query : String}

@[simp] theorem status_shown : (shown dialect query outcome).status = outcomeStatus outcome := by
  cases dialect <;> simp [shown, status_respondWith]

theorem contentType_shown : (shown dialect query outcome).headers.values "content-type" =
    (respondWith outcome).headers.values "content-type" := by
  cases dialect with
  | native => rfl
  | elastic =>
      refine (Headers.values_set_of_ne (by decide)).trans ?_
      split <;> simp

theorem values_shown {name : String} (htype : name ≠ "content-type")
    (hproduct : name ≠ Elastic.productHeader) :
    (shown dialect query outcome).headers.values name = [] := by
  cases dialect with
  | native => exact values_respondWith htype
  | elastic =>
      refine (Headers.values_set_of_ne (Ne.symm hproduct)).trans ?_
      split <;> simp [values_respondWith htype]

theorem headers_shown_elastic : (shown .elastic query outcome).headers =
    (nameProduct (respondWith outcome)).headers := by
  simp only [shown, present, nameProduct, Response.withHeader]
  split <;> simp

theorem body_shown_of_compact (h : dialect = .native ∨ asksPretty (plainQuery query) = false) :
    (shown dialect query outcome).body = compactBytes (outcomeBody? outcome) := by
  cases dialect with
  | native => exact body_respondWith
  | elastic =>
      simp only [shown, present, h.resolve_left nofun]
      exact body_respondWith

theorem body_shown_of_pretty (h : asksPretty (plainQuery query) = true) :
    (shown .elastic query outcome).body = (indent (respondWith outcome)).body := by
  simp only [shown, present, h]
  rfl

/-! ## What is sent -/

/-- A run in which the handler answers in time, at a route of a dialect. A response to `HEAD` is
sent without its body and is not meant here. -/
structure Handled (server : Server) (world : World) (request : Request) (dialect : Dialect)
    (outcome : Outcome) : Prop where
  withBody : request.method ≠ .head
  matched : ∃ route pieces, server.matchedRoute? request = some (route, pieces) ∧
    route.access.dialect = dialect
  called : ∃ r, (server.serve world request).call = some r ∧
    (server.router.service.handler r).outcome = outcome
  finished : (server.serve world request).finished = true

/-- Two responses tell a client the same. -/
structure TellsSame (response response' : Response) : Prop where
  status : response'.status = response.status
  contentType : response'.headers.values "content-type" = response.headers.values "content-type"
  body : response'.body = response.body

/-- A response says what another one says, with its document indented. -/
structure Indents (document? : Option Json) (plain pretty : Response) : Prop where
  status : pretty.status = plain.status
  headers : pretty.headers.filter (·.1 != "content-length") =
    plain.headers.filter (·.1 != "content-length")
  missing : document? = none → pretty.body = []
  indented : ∀ v, document? = some v → v.IsExact → v.nesting < Json.maxDepth →
    pretty.body = Text.Utf8.encode (v.ordered.pretty ++ "\n") ∧
      Json.read plain.body = .ok v.ordered ∧ Json.read pretty.body = .ok v.ordered
  same : ∀ v, document? = some v → v.IsExact → v.nesting < Json.maxDepth → v.IsOrdered →
    Json.read pretty.body = .ok v
  deep : ∀ v, document? = some v → Json.maxDepth ≤ v.nesting → pretty.body = plain.body

/-- A response states the length of the body that is sent with it. -/
def StatesLength (response : Response) : Prop :=
  response.headers.values "content-length" =
    [Text.Utf8.encode (toString response.body.length)]

namespace Server

variable {server : Server} {world world' world'' : World}
  {native plain pretty : Request}

theorem response_of_handled (h : Handled server world request dialect outcome) :
    (server.serve world request).response =
      (server.origins.stamp request (shown dialect request.query outcome)).withLength := by
  obtain ⟨hmethod, ⟨route, pieces, hmatched, rfl⟩, ⟨r, hcall, rfl⟩, hfinished⟩ := h
  rw [call_serve_of_matched world hmatched] at hcall
  rw [serve_of_finished hfinished, exchange_of_matched world hmatched]
  simp only [Exchange.finish, Exchange.mapResponse, asSent, hmethod, if_false, serveMatched,
    response_serveRoute hcall]

theorem statesLength_of_handled (h : Handled server world request dialect outcome) :
    StatesLength (server.serve world request).response := by
  have hnone : (server.origins.stamp request (shown dialect request.query outcome)).headers.values
      "content-length" = [] := by
    rw [Http.OriginPolicy.values_stamp (by decide), values_shown (by decide) (by decide)]
  rw [StatesLength, response_of_handled h, Response.values_withLength_self hnone,
    Response.body_withLength]

theorem status_of_handled (h : Handled server world request dialect outcome) :
    (server.serve world request).response.status = outcomeStatus outcome := by
  rw [response_of_handled h, Response.status_withLength, status_stamp, status_shown]

theorem body_of_handled (h : Handled server world request dialect outcome) :
    (server.serve world request).response.body = (shown dialect request.query outcome).body := by
  rw [response_of_handled h, Response.body_withLength]
  rfl

theorem contentType_of_handled (h : Handled server world request dialect outcome) :
    (server.serve world request).response.headers.values "content-type" =
      (respondWith outcome).headers.values "content-type" := by
  rw [response_of_handled h, Response.values_withLength (by decide),
    Http.OriginPolicy.values_stamp (by decide), contentType_shown]

theorem handled_of_matched {pieces : List String} (hmethod : request.method ≠ .head)
    (hmatched : server.matchedRoute? request = some (route, pieces))
    (hhandler : ∀ r, (server.router.service.handler r).outcome = outcome)
    (hcall : (serveMatched server.router.service world request route pieces).call.isSome)
    (hfinished : (server.serve world request).finished = true) :
    Handled server world request route.access.dialect outcome := by
  obtain ⟨r, hr⟩ := Option.isSome_iff_exists.1 hcall
  have hcalled : (server.serve world request).call = some r := by
    rw [call_serve_of_matched world hmatched, hr]
  exact ⟨hmethod, ⟨route, pieces, hmatched, rfl⟩, ⟨r, hcalled, hhandler r⟩, hfinished⟩

theorem indents_of_handled (hplain : Handled server world plain .elastic outcome)
    (hpretty : Handled server world' pretty .elastic outcome)
    (hcompact : asksPretty (plainQuery plain.query) = false)
    (hindented : asksPretty (plainQuery pretty.query) = true)
    (hheaders : pretty.headers = plain.headers) :
    Indents (outcomeBody? outcome) (server.serve world plain).response
      (server.serve world' pretty).response := by
  have hplainBody := (body_of_handled hplain).trans (body_shown_of_compact (.inr hcompact))
  have hprettyBody := (body_of_handled hpretty).trans (body_shown_of_pretty hindented)
  constructor
  · rw [status_of_handled hplain, status_of_handled hpretty]
  · rw [response_of_handled hplain, response_of_handled hpretty, Response.filter_withLength,
      Response.filter_withLength, stamp_congr hheaders]
    simp only [Http.OriginPolicy.stamp, headers_shown_elastic]
  · intro hmissing
    rw [hprettyBody, indent_respondWith_of_none hmissing, body_respondWith, hmissing]
    rfl
  · intro v hv hexact hdepth
    obtain ⟨hbody, hread⟩ := body_indent_of_shallow hv hexact hdepth
    rw [hplainBody, hprettyBody, hv]
    exact ⟨hbody, Json.read_compact hexact hdepth, hread⟩
  · intro v hv hexact hdepth hordered
    rw [hprettyBody, (body_indent_of_shallow hv hexact hdepth).2,
      Json.ordered_of_isOrdered hordered]
  · intro v hv hdepth
    rw [hplainBody, hprettyBody, body_indent_of_deep hv hdepth, hv]
    rfl

/-- Of one outcome of the handler, the native dialect and the Elasticsearch dialect show the same
status, the same content type and the same bytes, as long as no indented body is asked for: those of
the handler's document without blanks, or none if it gave no document. If an indented body is asked
for, only the layout of the document and the stated length change. -/
theorem outcome_shown (hnative : Handled server world native .native outcome)
    (hplain : Handled server world' plain .elastic outcome)
    (hpretty : Handled server world'' pretty .elastic outcome)
    (hcompact : asksPretty (plainQuery plain.query) = false)
    (hindented : asksPretty (plainQuery pretty.query) = true)
    (hheaders : pretty.headers = plain.headers) :
    (server.serve world native).response.status = outcomeStatus outcome ∧
    (server.serve world native).response.body = compactBytes (outcomeBody? outcome) ∧
    TellsSame (server.serve world native).response (server.serve world' plain).response ∧
    Indents (outcomeBody? outcome) (server.serve world' plain).response
      (server.serve world'' pretty).response ∧
    StatesLength (server.serve world native).response ∧
    StatesLength (server.serve world' plain).response ∧
    StatesLength (server.serve world'' pretty).response := by
  have hnativeBody := (body_of_handled hnative).trans (body_shown_of_compact (.inl rfl))
  have hplainBody := (body_of_handled hplain).trans (body_shown_of_compact (.inr hcompact))
  refine ⟨status_of_handled hnative, hnativeBody, ⟨?_, ?_, ?_⟩,
    indents_of_handled hplain hpretty hcompact hindented hheaders,
    statesLength_of_handled hnative, statesLength_of_handled hplain,
    statesLength_of_handled hpretty⟩
  · rw [status_of_handled hnative, status_of_handled hplain]
  · rw [contentType_of_handled hnative, contentType_of_handled hplain]
  · rw [hnativeBody, hplainBody]

/-! ## The outcome of a deletion -/

/-- What a handler may say of a deletion. -/
def deletedDocument : Json :=
  .object [("_version", .int 3), ("result", .string "deleted")]

/-- A service that says so to everyone. -/
def deletingService : Service :=
  { idleService openGuard with handler _ := ⟨0, .ok ⟨200, some deletedDocument⟩⟩ }

def deletingGateway : Server :=
  gateway default deletingService true

/-- The request for an indented body. -/
def prettyDeletion : Request :=
  { deletion "/es/logs/_doc/1" [] with query := "pretty" }

theorem handled_deletion {request : Request} {route : Route} {pieces : List String}
    (hmethod : request.method = .delete)
    (hmatched : deletingGateway.matchedRoute? request = some (route, pieces))
    (hcall :
      (serveMatched deletingGateway.router.service logsWorld request route pieces).call.isSome)
    (hfinished : (deletingGateway.serve logsWorld request).finished = true) :
    Handled deletingGateway logsWorld request route.access.dialect
      (.ok ⟨200, some deletedDocument⟩) :=
  handled_of_matched (by rw [hmethod]; decide) hmatched (fun _ => rfl) hcall hfinished

/-- The document about a deletion is the same in both dialects, and can be had with a line for each
of its fields. -/
theorem outcome_shown_deletion :
    Handled deletingGateway logsWorld (deletion "/api/logs/_doc/1" []) .native
      (.ok ⟨200, some deletedDocument⟩) ∧
    Handled deletingGateway logsWorld (deletion "/es/logs/_doc/1" []) .elastic
      (.ok ⟨200, some deletedDocument⟩) ∧
    Handled deletingGateway logsWorld prettyDeletion .elastic
      (.ok ⟨200, some deletedDocument⟩) ∧
    TellsSame (deletingGateway.serve logsWorld (deletion "/api/logs/_doc/1" [])).response
      (deletingGateway.serve logsWorld (deletion "/es/logs/_doc/1" [])).response ∧
    (deletingGateway.serve logsWorld prettyDeletion).response.body =
      Text.Utf8.encode (deletedDocument.pretty ++ "\n") ∧
    Json.read (deletingGateway.serve logsWorld prettyDeletion).response.body =
      .ok deletedDocument := by
  have hmatchedNative : deletingGateway.matchedRoute? (deletion "/api/logs/_doc/1" []) =
      some (nativeDeletionRoute, ["api", "logs", "_doc", "1"]) :=
    matched_takenPaths _ _ ("/api/logs/_doc/1", _) (by simp [takenPaths]) rfl rfl
  have hmatched : deletingGateway.matchedRoute? (deletion "/es/logs/_doc/1" []) =
      some (deletionRoute, ["es", "logs", "_doc", "1"]) := matched_deletion _ _
  have hsamePath : deletingGateway.matchedRoute? prettyDeletion =
      deletingGateway.matchedRoute? (deletion "/es/logs/_doc/1" []) :=
    matchedRoute?_congr rfl rfl
  have hmatchedPretty := hsamePath.trans hmatched
  have hnative := handled_deletion rfl hmatchedNative (by decide +kernel) (by
    rw [serve, exchange_of_matched _ hmatchedNative]
    decide +kernel)
  have hplain := handled_deletion rfl hmatched (by decide +kernel) (by
    rw [serve, exchange_of_matched _ hmatched]
    decide +kernel)
  have hpretty := handled_deletion rfl hmatchedPretty (by decide +kernel) (by
    rw [serve, exchange_of_matched _ hmatchedPretty]
    decide +kernel)
  have hexact : deletedDocument.IsExact :=
    ⟨by unfold Json.IsExact; decide, trivial, trivial⟩
  have hordered : deletedDocument.IsOrdered :=
    ⟨by decide, trivial, trivial, trivial⟩
  obtain ⟨-, -, hsame, hindents, -⟩ := outcome_shown hnative hplain hpretty (by decide +kernel)
    (by decide +kernel) rfl
  have hbody := (hindents.indented _ rfl hexact (by decide +kernel)).1
  rw [Json.ordered_of_isOrdered hordered] at hbody
  exact ⟨hnative, hplain, hpretty, hsame, hbody,
    hindents.same _ rfl hexact (by decide +kernel) hordered⟩

end Server

end SearchGateway.Gateway
