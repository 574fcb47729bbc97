import SearchGateway.Proofs.Gateway.Bodies

/-!
# The limit on bodies

How long a body may be is a matter of its bytes and not of the chunks that they arrive in: requests
that differ in their chunks only are served alike. A body within the limit reaches the handler
whole, and any other keeps the request from the handler and is reported in the manner of the
dialect (`Server.body_limited`).
-/

namespace SearchGateway.Gateway

open Http (Body BodyError Request)
open Routing (Action Pattern Route Stage)

variable {s : Service} {indices : Registry.Snapshot} {route : Route} {action : Action}
  {stages : List Stage} {p : Passage} {request : Request} {parameters : Option (Keyed String)}
  {body : Body} {e : BodyError}

/-- The stream of a body does not break, and its bytes do not exceed the limit. -/
def FitsLimit (limit : Nat) (body : Body) : Prop :=
  body.failure = none ∧ body.sent.length ≤ limit

instance (limit : Nat) (body : Body) : Decidable (FitsLimit limit body) :=
  inferInstanceAs (Decidable (_ ∧ _))

/-- What comes before the body of a request keeps the conventions. -/
structure Prefaced (request : Request) : Prop where
  contentType : checkMediaType request.headers "content-type" = .ok ()
  accept : checkMediaType request.headers "accept" = .ok ()
  query : ∃ query, Elastic.Query.ofPairs (Http.formPairs request.query) = .ok query

/-- A request has everything that its route demands, whether or not its body can be read. -/
structure Valid (s : Service) (indices : Registry.Snapshot) (route : Route) (request : Request)
    (parameters : Option (Keyed String)) : Prop where
  stages : ∀ stage ∈ route.access.stages, stage ≠ .conventions →
    Passes s indices route.endpoint request parameters stage
  prefaced : route.access.dialect = .elastic → Prefaced request
  rule : route.access.dialect = .elastic → KeepsRule route.endpoint request

/-! ## Chunks -/

/-- A request on its way with another body. -/
def Passage.withBody (p : Passage) (body : Body) : Passage :=
  { p with request := { p.request with body } }

/-- The stages and the endpoint see of a body only what can be read of it. -/
theorem passStages_withBody (h : body.read s.maxBodySize = p.request.body.read s.maxBodySize) :
    passStages s indices route stages (p.withBody body) =
      passStages s indices route stages p := by
  induction stages generalizing p with
  | nil =>
      simp only [passStages, serveEndpoint]
      split
      · simp only [dispatch, Passage.withBody, h]
        rfl
      all_goals rfl
  | cons stage stages ih =>
      cases stage with
      | authorization operation =>
          simp only [passStages, Passage.withBody]
          cases s.guard.check p.request.headers operation with
          | ok identity => exact ih (p := { p with identity }) h
          | error denial => rfl
      | conventions =>
          -- the conventions put what they have read in the place of the body
          have hkeep : keepConventions s route.endpoint (p.withBody body).request =
              keepConventions s route.endpoint p.request :=
            keepConventions_congr rfl rfl h
          simp only [passStages, hkeep]
          cases keepConventions s route.endpoint p.request <;> rfl
      | targets policy =>
          simp only [passStages, Passage.withBody]
          cases p.parameters.bind (·.get? "target") with
          | none => exact ih h
          | some expression =>
              cases hselect : indices.select policy expression with
              | ok targets =>
                  simp only [hselect]
                  exact congrArg _ (ih (p := { p with targets := some targets }) h)
              | error e => simp only [hselect]

theorem serveRoute_withBody (h : body.read s.maxBodySize = request.body.read s.maxBodySize) :
    serveRoute s indices route { request with body } parameters =
      serveRoute s indices route request parameters :=
  passStages_withBody (p := { request, parameters }) h

/-! ## Bodies that fit -/

theorem exists_read_iff {limit : Nat} :
    (∃ bytes, body.read limit = .ok bytes) ↔ FitsLimit limit body := by
  simp only [Body.read_eq_ok_iff, FitsLimit]
  constructor
  · rintro ⟨_, hfailure, rfl, hlength⟩
    exact ⟨hfailure, hlength⟩
  · rintro ⟨hfailure, hlength⟩
    exact ⟨_, hfailure, rfl, hlength⟩

theorem passes_of_valid (h : Valid s indices route request parameters)
    (hfits : FitsLimit s.maxBodySize request.body) (stage : Stage)
    (hstage : stage ∈ route.access.stages) :
    Passes s indices route.endpoint request parameters stage := by
  by_cases hsame : stage = .conventions
  · subst hsame
    have hdialect := conventions_mem_stages.1 hstage
    obtain ⟨htype, haccept, hquery⟩ := h.prefaced hdialect
    exact passes_conventions_iff.2
      ⟨⟨htype, haccept, hquery, exists_read_iff.2 hfits⟩, h.rule hdialect⟩
  · exact h.stages stage hstage hsame

theorem call_of_valid (hendpoint : route.endpoint = .handler action)
    (h : Valid s indices route request parameters)
    (hfits : FitsLimit s.maxBodySize request.body) :
    ∃ r, (serveRoute s indices route request parameters).call = some r ∧
      r.body = request.body.sent := by
  obtain ⟨r, hr⟩ :=
    (exists_call_iff hendpoint).2 ⟨passes_of_valid h hfits, exists_read_iff.2 hfits⟩
  exact ⟨r, hr, (Body.read_eq_ok_iff.1 (carries_of_call hr).body).2.1⟩

/-! ## Bodies that do not -/

theorem call_of_not_fits (h : ¬ FitsLimit s.maxBodySize request.body) :
    (serveRoute s indices route request parameters).call = none := by
  rw [Option.eq_none_iff_forall_ne_some]
  intro r hr
  exact h (exists_read_iff.1 ⟨_, (carries_of_call hr).body⟩)

/-- A body that does not fit fails as one that is too long if its bytes exceed the limit, whether or
not its stream breaks after that. -/
theorem exists_fault {limit : Nat} (h : ¬ FitsLimit limit body) :
    ∃ e, body.read limit = .error e ∧
      ((Failure.ofBodyError e).render .native).status =
        if limit < body.sent.length then 413 else 400 := by
  cases hread : body.read limit with
  | ok bytes => exact absurd (exists_read_iff.1 ⟨bytes, hread⟩) h
  | error e =>
      refine ⟨e, rfl, ?_⟩
      rcases Body.read_eq_error_iff.1 hread with ⟨hlong, rfl⟩ | ⟨hfits, reason, -, rfl⟩
      · rw [if_pos hlong]
        rfl
      · rw [if_neg (Nat.not_lt.2 hfits)]
        rfl

theorem serveRoute_native_of_unread (hdialect : route.access.dialect = .native)
    (hendpoint : route.endpoint = .handler action) (hadmitted : ¬ Denies s.guard route request)
    (hread : request.body.read s.maxBodySize = .error e) :
    serveRoute s indices route request parameters =
      .answered ((Failure.ofBodyError e).render .native) := by
  obtain ⟨p, hserve, rfl⟩ := serveRoute_of_native indices parameters hdialect hadmitted
  rw [hserve, hendpoint, serveEndpoint, dispatch, hread]

theorem serveRoute_elastic_of_unread (hdialect : route.access.dialect = .elastic)
    (hprefaced : Prefaced request) (hadmitted : ¬ Denies s.guard route request)
    (hread : request.body.read s.maxBodySize = .error e) :
    ∃ reason, serveRoute s indices route request parameters =
      .answered (nameProduct (Elastic.Failure.parse reason).response)
        [.refused "parse_exception"] := by
  obtain ⟨rest, p, hserve, rfl⟩ :=
    serveRoute_of_not_denied indices parameters hdialect hadmitted
  obtain ⟨htype, haccept, query, hquery⟩ := hprefaced
  refine ⟨s!"failed to read request body: {e.message}", ?_⟩
  rw [hserve, passStages, keepConventions, htype, haccept, hquery, hread]
  rfl

namespace Server

variable {server : Server} {world : World} {pieces : List String}

theorem serve_withBody (hmatched : server.matchedRoute? request = some (route, pieces))
    (hread : body.read server.router.service.maxBodySize =
      request.body.read server.router.service.maxBodySize) :
    server.serve world { request with body } = server.serve world request := by
  have hmatched' : server.matchedRoute? { request with body } = some (route, pieces) :=
    (matchedRoute?_congr rfl rfl).trans hmatched
  have hroute : serveMatched server.router.service world { request with body } route pieces =
      serveMatched server.router.service world request route pieces :=
    serveRoute_withBody hread
  have hexchange : server.exchange world { request with body } =
      server.exchange world request := by
    rw [exchange_of_matched world hmatched', exchange_of_matched world hmatched, hroute]
    rfl
  simp only [serve, hexchange]

/-- Requests for the handler that differ in the chunks of their bodies only are served alike. If a
request is valid and its body fits, then the handler gets the bytes that were sent. If the body does
not fit, then the handler is not called. In the native dialect the status is then 413 or 400, as the
bytes exceed the limit or not. In the Elasticsearch dialect the answer is the envelope of a parse
failure in both cases, without its body if the method is `HEAD`. -/
theorem body_limited (hmatched : server.matchedRoute? request = some (route, pieces))
    (hendpoint : route.endpoint = .handler action)
    (hadmitted : ¬ Denies server.router.service.guard route request) (world : World) :
    (∀ body : Body, body.sent = request.body.sent → body.failure = request.body.failure →
      server.serve world { request with body } = server.serve world request) ∧
    (FitsLimit server.router.service.maxBodySize request.body →
      Valid server.router.service world.indices route request
        (pathParameters (Pattern.ofPath route.path) pieces) →
      ∃ r, (server.serve world request).call = some r ∧ r.body = request.body.sent) ∧
    (¬ FitsLimit server.router.service.maxBodySize request.body →
      (server.serve world request).call = none ∧
      (route.access.dialect = .native →
        (server.serve world request).response.status =
          if server.router.service.maxBodySize < request.body.sent.length then 413 else 400) ∧
      (route.access.dialect = .elastic → Prefaced request →
        ∃ shown reason, Reports shown (.parse reason) ∧
          (server.serve world request).response = asSent request.method shown)) := by
  refine ⟨fun body hsent hfailure => serve_withBody hmatched (Body.read_congr hsent hfailure),
    fun hfits hvalid => ?_, fun hfits => ?_⟩
  · rw [call_serve_of_matched world hmatched]
    exact call_of_valid hendpoint hvalid hfits
  · obtain ⟨e, hread, hstatus⟩ := exists_fault hfits
    refine ⟨?_, fun hdialect => ?_, fun hdialect hprefaced => ?_⟩
    · rw [call_serve_of_matched world hmatched]
      exact call_of_not_fits hfits
    · rw [serve_of_answered world hmatched
        (serveRoute_native_of_unread hdialect hendpoint hadmitted hread)]
      simp only [status_asSent, status_stamp, hstatus]
    · obtain ⟨reason, hserve⟩ :=
        serveRoute_elastic_of_unread hdialect hprefaced hadmitted hread
      rw [serve_of_answered world hmatched hserve]
      exact ⟨_, reason, reports_response.nameProduct.stamp, rfl⟩

/-! ## A gateway for four bytes -/

/-- The gateway before a service that takes four bytes and no more. -/
def narrowGateway : Server :=
  gateway default { idleService openGuard with maxBodySize := 4 } true

/-- A request with a body that arrives in these pieces, after which its stream may break. -/
def upload (path : String) (pieces : List String) (failure : Option String) : Request where
  method := .post
  path
  query := ""
  headers := []
  body := ⟨pieces.map Text.Utf8.encode, failure⟩

theorem matched_upload (pieces : List String) (failure : Option String) :
    narrowGateway.matchedRoute? (upload "/api/_bulk" pieces failure) =
      some (uploadRoute, ["api", "_bulk"]) :=
  matched_takenPaths _ _ ("/api/_bulk", _) (by simp [takenPaths]) rfl rfl

theorem matched_bulk (pieces : List String) (failure : Option String) :
    narrowGateway.matchedRoute? (upload "/es/_bulk" pieces failure) =
      some (bulkRoute, ["es", "_bulk"]) :=
  matched_takenPaths _ _ ("/es/_bulk", _) (by simp [takenPaths]) rfl rfl

theorem prefaced_upload {path : String} {pieces : List String} {failure : Option String} :
    Prefaced (upload path pieces failure) :=
  ⟨rfl, rfl, _, rfl⟩

/-- Four bytes reach the handler in any chunks. A fifth byte counts before a stream that breaks, and
fewer bytes do not help a stream that breaks. -/
theorem body_limited_upload :
    (∃ r, (narrowGateway.serve logsWorld
        (upload "/api/_bulk" ["ab", "", "cd"] none)).call = some r ∧
      r.body = Text.Utf8.encode "abcd") ∧
    narrowGateway.serve logsWorld (upload "/api/_bulk" ["abc", "d"] none) =
      narrowGateway.serve logsWorld (upload "/api/_bulk" ["ab", "", "cd"] none) ∧
    (∃ r, (narrowGateway.serve logsWorld
        (upload "/es/_bulk" ["\x7b", "\x7d\n"] none)).call = some r ∧
      r.body = Text.Utf8.encode "\x7b\x7d\n") ∧
    (narrowGateway.serve logsWorld
      (upload "/api/_bulk" ["abc", "de"] (some "reset"))).response.status = 413 ∧
    (narrowGateway.serve logsWorld
      (upload "/api/_bulk" ["abc", "d"] (some "reset"))).response.status = 400 ∧
    (narrowGateway.serve logsWorld
      (upload "/es/_bulk" ["\x7b\x7d\n", "\x7b\x7d\n"] none)).call = none ∧
    ∃ reason, Reports (narrowGateway.serve logsWorld
      (upload "/es/_bulk" ["\x7b\x7d\n", "\x7b\x7d\n"] none)).response (.parse reason) := by
  have hnative (pieces : List String) (failure : Option String) :=
    body_limited (matched_upload pieces failure) rfl (not_denies_of_disabled rfl) logsWorld
  have helastic (pieces : List String) :=
    body_limited (matched_bulk pieces none) rfl (not_denies_of_disabled rfl) logsWorld
  obtain ⟨hsame, hwhole, -⟩ := hnative ["ab", "", "cd"] none
  obtain ⟨-, hadmitted, -⟩ := helastic ["\x7b", "\x7d\n"]
  obtain ⟨-, -, hlong⟩ := hnative ["abc", "de"] (some "reset")
  obtain ⟨-, -, hbroken⟩ := hnative ["abc", "d"] (some "reset")
  obtain ⟨-, -, hrefused⟩ := helastic ["\x7b\x7d\n", "\x7b\x7d\n"]
  obtain ⟨hcall, -, hreported⟩ := hrefused (by decide +kernel)
  obtain ⟨shown, reason, hshown, hresponse⟩ := hreported rfl prefaced_upload
  refine ⟨hwhole (by decide +kernel) ⟨fun stage hstage _ => ?_, nofun, nofun⟩,
    hsame _ (by decide +kernel) rfl,
    hadmitted (by decide +kernel) ⟨fun stage hstage hother => ?_, fun _ => prefaced_upload,
      fun _ => Elastic.Payload.check_eq_ok_iff.1 (by decide +kernel)⟩,
    (hlong (by decide +kernel)).2.1 rfl, (hbroken (by decide +kernel)).2.1 rfl, hcall, reason, ?_⟩
  · obtain rfl : stage = .authorization .documentBulk := List.mem_singleton.1 hstage
    exact ⟨none, rfl⟩
  · obtain rfl | rfl : stage = .authorization .documentESBulk ∨ stage = .conventions :=
      List.mem_pair.1 hstage
    · exact ⟨none, rfl⟩
    · exact absurd rfl hother
  · rw [hresponse]
    exact hshown.asSent (by decide)

end Server

end SearchGateway.Gateway
