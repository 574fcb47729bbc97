import SearchGateway.Proofs.Gateway.Console
import SearchGateway.Proofs.Gateway.Presentation
import SearchGateway.Proofs.Http.Origins

/-!
# Who may read a response

No route, page or failure says which origin may read a response: the headers they set are a few
others (`Server.setsRouteNames_route`). The one origin that a response names is therefore what the
policy of the server adds, the origin of the request if it is admitted. A response that comes at the
deadline is not the policy's business and names nobody (`Server.admits_configured`).
-/

namespace SearchGateway.Gateway

open Http (Headers Method OriginPolicy Request Response)
open Routing (Dialect Endpoint Route Stage Table)

/-- The names of the headers that a response may have before it is stamped and its length stated. -/
def routeNames : List String :=
  ["content-type", "cache-control", "location", "allow", "www-authenticate",
    Elastic.productHeader]

/-- A response has no other headers than those that routes set. -/
def SetsRouteNames (response : Response) : Prop :=
  ∀ field ∈ response.headers, field.1 ∈ routeNames

variable {s : Service} {indices : Registry.Snapshot} {route : Route} {endpoint : Endpoint}
  {dialect : Dialect} {stages : List Stage} {p : Passage} {request : Request}
  {response : Response}

/-! ## The headers of a response -/

theorem setsRouteNames_ofStatus {status : Nat} : SetsRouteNames (.ofStatus status) := nofun

theorem setsRouteNames_ofJson {status : Nat} {document : Json} :
    SetsRouteNames (.ofJson status document) := by
  simp [SetsRouteNames, Response.ofJson, routeNames]

theorem setsRouteNames_redirect {status : Nat} {location : String} :
    SetsRouteNames (.redirect status location) := by
  simp [SetsRouteNames, Response.redirect, routeNames]

theorem SetsRouteNames.withHeader {name value : String} (h : SetsRouteNames response)
    (hname : name ∈ routeNames) : SetsRouteNames (response.withHeader name value) := by
  intro field hfield
  rcases List.mem_append.1 hfield with hold | hnew
  · exact h field (List.mem_filter.1 hold).1
  · rwa [List.mem_singleton.1 hnew]

theorem setsRouteNames_respondWith {outcome : Outcome} :
    SetsRouteNames (respondWith outcome) := by
  match outcome with
  | .ok ⟨_, some _⟩ | .error _ => exact setsRouteNames_ofJson
  | .ok ⟨_, none⟩ => exact setsRouteNames_ofStatus

theorem setsRouteNames_document {failure : Failure} :
    SetsRouteNames (failure.document dialect) := by
  cases dialect <;> exact setsRouteNames_ofJson

theorem setsRouteNames_render {failure : Failure} : SetsRouteNames (failure.render dialect) := by
  cases failure with
  | handler error => exact setsRouteNames_respondWith
  | unauthenticated reason => exact setsRouteNames_document.withHeader (by decide)
  | _ => exact setsRouteNames_document

theorem setsRouteNames_serveEndpoint :
    SetsRouteNames (serveEndpoint s dialect endpoint p).response := by
  cases endpoint with
  | handler action =>
      simp only [serveEndpoint, dispatch]
      split
      · exact setsRouteNames_render
      · exact setsRouteNames_respondWith
  | redirect location => exact setsRouteNames_redirect
  | _ => exact setsRouteNames_ofJson

theorem SetsRouteNames.nameProduct (h : SetsRouteNames response) :
    SetsRouteNames (nameProduct response) :=
  h.withHeader (by decide)

theorem SetsRouteNames.present {pretty : Bool} (h : SetsRouteNames response) :
    SetsRouteNames (present pretty response) := by
  refine SetsRouteNames.nameProduct ?_
  split
  · unfold SetsRouteNames
    rwa [headers_indent]
  · exact h

theorem setsRouteNames_passStages :
    SetsRouteNames (passStages s indices route stages p).response := by
  induction stages generalizing p with
  | nil => exact setsRouteNames_serveEndpoint
  | cons stage stages ih =>
      rw [passStages_cons]
      cases tryStage s indices route.endpoint p stage with
      | ok q =>
          cases stage with
          | conventions => exact ih.present
          | authorization operation | targets policy => exact ih
      | error failure =>
          cases stage with
          | conventions => exact setsRouteNames_render.nameProduct
          | authorization operation | targets policy => exact setsRouteNames_render

namespace Console

theorem setsRouteNames_unmatched : SetsRouteNames (unmatched request).response := by
  unfold unmatched
  dsimp only [Exchange.answered]
  split
  · exact setsRouteNames_redirect
  · exact setsRouteNames_ofStatus

theorem setsRouteNames_fileResponse {path lifetime : String} {content : Bytes} :
    SetsRouteNames (fileResponse path lifetime content) := by
  simp [SetsRouteNames, fileResponse, routeNames]

theorem setsRouteNames_load? {files : Files} {path : String}
    (h : load? files path = some response) : SetsRouteNames response := by
  unfold load? at h
  dsimp only at h
  split at h
  · cases h
  · split at h
    · cases h
      exact setsRouteNames_fileResponse
    · obtain ⟨content, -, rfl⟩ := Option.map_eq_some_iff.1 h
      exact setsRouteNames_fileResponse

theorem setsRouteNames_serve {files : Files} {page : Page} {parameters : Option (Keyed String)} :
    SetsRouteNames (serve files page request parameters).response := by
  cases page with
  | door => exact setsRouteNames_redirect
  | index =>
      obtain ⟨response, hresponse⟩ := Option.isSome_iff_exists.1 (isSome_load?_index files)
      simp only [serve, hresponse, Option.getD_some, Exchange.answered]
      exact setsRouteNames_load? hresponse
  | file =>
      simp only [serve]
      split
      · simp [SetsRouteNames, Exchange.answered, badPath, routeNames]
      · split
        · rename_i hresponse
          exact setsRouteNames_load? hresponse
        · exact setsRouteNames_unmatched

end Console

theorem setsRouteNames_serveAt {table : Table} {world : World} {site : Site}
    {pieces : List String} :
    SetsRouteNames (serveAt s table world site pieces request).response := by
  unfold serveAt
  split
  · rename_i exchange hserve
    cases site with
    | declared path =>
        obtain ⟨route, -, rfl⟩ := Option.map_eq_some_iff.1 hserve
        exact setsRouteNames_passStages
    | page page =>
        obtain ⟨-, rfl⟩ := Option.ite_some_none_eq_some.1 hserve
        exact Console.setsRouteNames_serve
    | metrics =>
        obtain ⟨-, rfl⟩ := Option.ite_some_none_eq_some.1 hserve
        simp [SetsRouteNames, Exchange.answered, metricsResponse, routeNames]
  · exact Console.setsRouteNames_unmatched.withHeader (by decide)

namespace Server

variable {settings : Settings} {metrics : Bool} {server : Server} {origin : Bytes}
  {world : World}

theorem setsRouteNames_route : SetsRouteNames (server.route world request).response := by
  unfold Server.route
  split
  · exact Console.setsRouteNames_unmatched
  · exact setsRouteNames_serveAt

theorem admitted_route : OriginPolicy.admitted (server.route world request).response = [] := by
  refine Headers.values_eq_nil fun field hfield hname => ?_
  have hroute := setsRouteNames_route field hfield
  rw [hname] at hroute
  exact absurd hroute (by decide)

theorem admitted_asSent {method : Method} :
    OriginPolicy.admitted (asSent method response) = OriginPolicy.admitted response := by
  unfold asSent
  split <;> exact Response.values_withLength (by decide)

theorem admitted_of_finished (hmethod : request.method ≠ .options)
    (horigin : request.headers.first? "origin" = some origin)
    (hfinished : (server.serve world request).finished = true) :
    OriginPolicy.admitted (server.serve world request).response =
      if server.origins.allows origin then [origin] else [] := by
  rw [serve_of_finished hfinished, exchange_of_method hmethod]
  simp only [Exchange.finish, Exchange.mapResponse]
  rw [admitted_asSent, OriginPolicy.admitted_stamp horigin, admitted_route, List.nil_append]

theorem admitted_of_unfinished (hfinished : (server.serve world request).finished = false) :
    OriginPolicy.admitted (server.serve world request).response = [] := by
  rw [response_of_unfinished hfinished, admitted_asSent]
  rfl

/-- A server serves alike under policies that differ in entries only that no header can hold. -/
theorem serve_congr_policy {policy : OriginPolicy} (hmethod : request.method ≠ .options)
    (h : server.origins.SameUsable policy) :
    { server with origins := policy }.serve world request = server.serve world request := by
  have hstamp : policy.stamp request = server.origins.stamp request :=
    funext fun _ => (OriginPolicy.stamp_congr_policy h).symm
  have hexchange : { server with origins := policy }.exchange world request =
      server.exchange world request := by
    rw [exchange_of_method hmethod, exchange_of_method hmethod, hstamp]
    rfl
  simp only [serve, hexchange]
  rfl

/-- A response to a request from another origin that comes before the deadline names an origin
exactly if the policy of the settings is enabled and has a star or this very origin as an entry, and
then it names this origin once. At the deadline the empty response with status 408 is sent, which
names no origin, and none ever is named if the policy is disabled or has only entries that no header
can hold. Beside others such entries change nothing. -/
theorem admits_configured (hserver : Server.standard settings s metrics = .ok server)
    (hmethod : request.method ≠ .options)
    (horigin : request.headers.first? "origin" = some origin) (hvalue : Http.IsFieldValue origin)
    (world : World) :
    ((server.serve world request).finished = true →
      (settings.server.origins.Admits origin →
        OriginPolicy.admitted (server.serve world request).response = [origin]) ∧
      (¬ settings.server.origins.Admits origin →
        OriginPolicy.admitted (server.serve world request).response = [])) ∧
    ((server.serve world request).finished = false →
      (server.serve world request).response = asSent request.method (.ofStatus 408) ∧
        OriginPolicy.admitted (server.serve world request).response = []) ∧
    (settings.server.origins.enabled = false ∨ (∀ text ∈ settings.server.origins.origins,
        ¬ Http.IsFieldValue (Text.Utf8.encode text)) →
      OriginPolicy.admitted (server.serve world request).response = []) ∧
    ∀ policy server', settings.server.origins.SameUsable policy →
      Server.standard { settings with server.origins := policy } s metrics = .ok server' →
        server'.serve world request = server.serve world request := by
  rw [standard_eq_gateway, Except.ok.injEq] at hserver
  subst hserver
  have hallows := OriginPolicy.allows_iff (p := settings.server.origins) hvalue
  refine ⟨fun hfinished => ?_,
    fun hfinished => ⟨response_of_unfinished hfinished, admitted_of_unfinished hfinished⟩,
    fun hnone => ?_, fun policy server' hpolicy hserver' => ?_⟩
  · rw [admitted_of_finished hmethod horigin hfinished]
    exact ⟨fun hadmits => if_pos (hallows.2 hadmits), fun hadmits => if_neg (mt hallows.1 hadmits)⟩
  · cases hfinished : ((gateway settings s metrics).serve world request).finished with
    | false => exact admitted_of_unfinished hfinished
    | true =>
        rw [admitted_of_finished hmethod horigin hfinished]
        exact if_neg (Bool.eq_false_iff.1 (OriginPolicy.allows_eq_false hnone))
  · rw [standard_eq_gateway, Except.ok.injEq] at hserver'
    subst hserver'
    have hsame : (gateway settings s metrics).origins.SameUsable policy := hpolicy
    exact serve_congr_policy hmethod hsame

/-! ## Deletions from another origin -/

def applicationOrigin : Bytes :=
  Text.Utf8.encode "https://app.example"

theorem isFieldValue_applicationOrigin : Http.IsFieldValue applicationOrigin := by
  unfold Http.IsFieldValue
  decide +kernel

def applicationDeletion : Request :=
  deletion "/es/logs/_doc/1" [("origin", applicationOrigin)]

theorem matched_applicationDeletion (settings : Settings) (service : Service) :
    (gateway settings service true).matchedRoute? applicationDeletion =
      some (deletionRoute, ["es", "logs", "_doc", "1"]) := by
  rw [← matched_deletion settings service]
  exact matchedRoute?_congr rfl rfl

/-- Settings that admit this origin; the entry before it has a line break, and no header has it. -/
def listedSettings : Settings :=
  { server := { origins := ⟨true, ["https://app.example\n", "https://app.example"]⟩ } }

/-- The listed origin may read the response. -/
theorem admits_configured_application :
    Server.standard listedSettings (idleService openGuard) true =
      .ok (gateway listedSettings (idleService openGuard) true) ∧
    applicationDeletion.method ≠ .options ∧
    applicationDeletion.headers.first? "origin" = some applicationOrigin ∧
    Http.IsFieldValue applicationOrigin ∧
    OriginPolicy.admitted ((gateway listedSettings (idleService openGuard) true).serve logsWorld
      applicationDeletion).response = [applicationOrigin] := by
  have hserver := standard_eq_gateway listedSettings (idleService openGuard) true
  have hmethod : applicationDeletion.method ≠ .options := by decide
  have hadmits : listedSettings.server.origins.Admits applicationOrigin :=
    ⟨rfl, .inr ⟨"https://app.example", by decide, rfl⟩⟩
  have hfinished : ((gateway listedSettings (idleService openGuard) true).serve logsWorld
      applicationDeletion).finished = true := by
    rw [serve, exchange_of_matched _ (matched_applicationDeletion _ _)]
    decide +kernel
  exact ⟨hserver, hmethod, rfl, isFieldValue_applicationOrigin,
    ((admits_configured hserver hmethod rfl isFieldValue_applicationOrigin logsWorld).1
      hfinished).1 hadmits⟩

/-- A service whose handler takes a minute, which is as long as the server waits. -/
def slowService : Service :=
  { idleService openGuard with handler _ := ⟨60000, .ok ⟨200, none⟩⟩ }

/-- At the deadline an origin is not named although the policy admits it. -/
theorem unnamed_at_deadline :
    ¬ ∀ (settings : Settings) (service : Service) (metrics : Bool) (server : Server),
      Server.standard settings service metrics = .ok server →
      ∀ (request : Request) (origin : Bytes), request.method ≠ .options →
        request.headers.first? "origin" = some origin → Http.IsFieldValue origin →
        ∀ world, (OriginPolicy.admitted (server.serve world request).response ≠ [] ↔
          settings.server.origins.Admits origin) := by
  intro hnamed
  have hserver := standard_eq_gateway default slowService true
  have hadmits : (default : Settings).server.origins.Admits applicationOrigin :=
    ⟨rfl, .inl List.mem_cons_self⟩
  have hfinished : ((gateway default slowService true).serve logsWorld
      applicationDeletion).finished = false := by
    rw [serve, exchange_of_matched _ (matched_applicationDeletion _ _)]
    decide +kernel
  have hmethod : applicationDeletion.method ≠ .options := by decide
  exact (hnamed _ _ _ _ hserver _ _ hmethod rfl isFieldValue_applicationOrigin logsWorld).2 hadmits
    (admitted_of_unfinished hfinished)

end Server

end SearchGateway.Gateway
