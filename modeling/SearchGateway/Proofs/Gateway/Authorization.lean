import SearchGateway.Gateway.Setup
import SearchGateway.Proofs.Gateway.Matching
import SearchGateway.Proofs.Gateway.Refusal
import SearchGateway.Proofs.Registry.Invariant
import SearchGateway.Proofs.Routing.Table
import SearchGateway.Proofs.Security.Decision

/-!
# Authorization

Whatever the settings, the verifier and the declared routes are, a router calls the handler for
entitled callers only, and the response to a denied caller says why in the dialect of the route.
-/

namespace SearchGateway.Gateway

open Http (Request Response)
open Routing (Declaration Dialect Table)
open Security (Denial Denied Entitled Guard Verifier)

/-! ## Responses to denied callers -/

/-- The document about a denial. -/
def denialDocument (dialect : Dialect) (status : Nat) (reason : String) : Json :=
  match dialect with
  | .native => .object [("error", .string reason)]
  | .elastic =>
    let cause := [("type", .string "security_exception"), ("reason", .string reason)]
    .object [
      ("error", .object (("root_cause", .array [.object cause]) :: cause)),
      ("status", .int status)]

/-- The response that asks a caller for a credential. -/
def challengeResponse (dialect : Dialect) (reason : String) : Response :=
  (Response.ofJson 401 (denialDocument dialect 401 reason)).withHeader "www-authenticate"
    "Basic realm=\"sift\""

/-- The response to a denied caller in the dialect of a route. -/
def denialResponse (dialect : Dialect) : Denial → Response
  | .noCredential => challengeResponse dialect "missing authentication credentials"
  | .unknownCredential =>
    challengeResponse dialect "unable to authenticate with provided credentials"
  | .forbidden operation user =>
    .ofJson 403 (denialDocument dialect 403
      s!"action [{operation.token}] is unauthorized for user [{user}]")

theorem render_ofDenial (denial : Denial) (dialect : Dialect) :
    (Failure.ofDenial denial).render dialect = denialResponse dialect denial := by
  cases denial <;> cases dialect <;> rfl

/-! ## A caller with one role -/

/-- Settings with one account, whose role covers an operation that has another permission. -/
def editorSettings : Security.Settings where
  apiKeys := [⟨"key-1", "alice", ["editor"]⟩]
  roles := .ofList [("editor", ["document.*"])]
  overrides := .ofList [("document.Delete", " document.Purge ")]

/-- The verifier of these settings. -/
def editorVerifier : Verifier :=
  (Security.Directory.ofSettings editorSettings).verify

/-- A service whose handler does nothing. -/
def idleService (guard : Guard) : Service where
  handler _ := ⟨0, .ok ⟨200, none⟩⟩
  guard
  cluster := {}
  maxBodySize := 1024

/-- A world with one index. -/
def logsWorld : World where
  indices := Registry.Snapshot.empty.run [.createIndex "logs"]

/-- A request to delete a document. -/
def deletion (path : String) (headers : Http.Headers) : Request where
  method := .delete
  path
  query := ""
  headers
  body := .empty

/-- The headers with the key of the account. -/
def editorHeaders : Http.Headers :=
  [("authorization", Text.Utf8.encode "Bearer key-1")]

/-- Routes for single documents. -/
def documentRoutes : List Declaration := [
  .resolving [.post] "/:target/_doc" .documentCreateUpdate .documentCreateUpdate .create,
  .resolving [.put, .post] "/:target/_create/:id"
    .documentCreateUpdate .documentCreateUpdate .create,
  .resolving [.delete] "/:target/_doc/:id" .documentDelete .documentDelete .required]

/-- The table of these routes. -/
def documentTable : Table :=
  ⟨documentRoutes.flatMap Declaration.routes, by decide⟩

theorem build_documentRoutes : Table.build documentRoutes = .ok documentTable :=
  Table.build_of_firstRepeat? (by decide)

/-! ## Who is served -/

variable {settings : Security.Settings} {verifier : Verifier} {guard : Guard}
  {declarations : List Declaration} {table : Table} {service : Service} {router : Router}

theorem Router.mount_eq_ok (h : Router.mount service table = .ok router) :
    router.service = service ∧ router.table = table := by
  obtain ⟨-, -, h⟩ := bind_eq_ok_iff.1 h
  cases h
  exact ⟨rfl, rfl⟩

/-- A router calls the handler at most once for a request, and only if the route declares the
action and the caller is entitled to its operation; anyone may take a public route, for nobody in
particular. Exactly those who are denied get the response to denied callers. -/
theorem Router.serves_entitled_only
    (hguard : Guard.withVerifier settings verifier = .ok guard)
    (htable : Table.build declarations = .ok table) (hservice : service.guard = guard)
    (hrouter : Router.mount service table = .ok router) (world : World) (request : Request) :
    (∀ handler, (∀ r, (router.serve world request).call = some r → handler r = service.handler r) →
      (router.withHandler handler).serve world request = router.serve world request) ∧
    (∀ r, (router.serve world request).call = some r →
      ∃ declaration ∈ declarations, ∃ route ∈ declaration.routes, ∃ pieces,
        matchedRoute? (tableSites table) table request = some (route, pieces) ∧
        DeclaredFor route request pieces ∧ route.endpoint = .handler r.action ∧
        (route.access.operation? = none ∧ r.identity = none ∨
          ∃ operation, route.access.operation? = some operation ∧
            Entitled settings verifier request.headers operation r.identity)) ∧
    (∀ route pieces operation,
      matchedRoute? (tableSites table) table request = some (route, pieces) →
      route.access.operation? = some operation →
        (∀ denial, Denied settings verifier request.headers operation denial →
          (router.serve world request).call = none ∧
          (router.serve world request).response =
            asSent request.method (denialResponse route.access.dialect denial)) ∧
        ((router.serve world request).call = none →
          (router.serve world request).response.status ∈ [401, 403] →
            ∃ denial, Denied settings verifier request.headers operation denial)) := by
  obtain ⟨rfl, rfl⟩ := Router.mount_eq_ok hrouter
  subst hservice
  refine ⟨fun handler h => Router.serve_withHandler h, fun r hr => ?_, ?_⟩
  · obtain ⟨route, pieces, hmatched, hcall⟩ := Router.matched_of_call hr
    obtain ⟨declaration, hdeclaration, hroute⟩ :=
      Table.exists_declaration htable (mem_routes_of_matched hmatched)
    obtain ⟨hendpoint, hidentity⟩ := identity_of_call hcall
    refine ⟨declaration, hdeclaration, route, hroute, pieces, hmatched,
      declaredFor_of_matched hmatched, hendpoint, ?_⟩
    cases hoperation : route.access.operation? with
    | none =>
        rw [hoperation] at hidentity
        exact .inl ⟨rfl, hidentity⟩
    | some operation =>
        rw [hoperation] at hidentity
        exact .inr ⟨operation, rfl, (Security.check_eq_ok_iff hguard).1 hidentity⟩
  · intro route pieces operation hmatched hoperation
    rw [Router.serve_of_matched world hmatched]
    constructor
    · intro denial hdenied
      have hcheck := (Security.check_eq_error_iff hguard).2 hdenied
      rw [serveMatched, serveRoute_of_denied hoperation hcheck, render_ofDenial]
      exact ⟨rfl, rfl⟩
    · intro hcall hstatus
      rcases Security.check_decides hguard request.headers operation with
        ⟨identity, hcheck, -⟩ | ⟨denial, -, hdenied⟩
      · simp only [Exchange.mapResponse, status_asSent] at hstatus
        exact absurd hstatus (status_of_admitted hoperation hcheck hcall)
      · exact ⟨denial, hdenied⟩

/-- A role that covers the permission of an operation lets its holder perform it. -/
theorem Router.serves_editor :
    ∃ guard router, Guard.withVerifier editorSettings editorVerifier = .ok guard ∧
      Table.build documentRoutes = .ok documentTable ∧
      Router.mount (idleService guard) documentTable = .ok router ∧
      ∃ r, (router.serve logsWorld (deletion "/es/logs/_doc/1" editorHeaders)).call = some r ∧
        r.identity = some ⟨"alice", ["editor"], "key-1"⟩ ∧
        ∃ declaration ∈ documentRoutes, ∃ route ∈ declaration.routes, ∃ pieces,
          matchedRoute? (tableSites documentTable) documentTable
            (deletion "/es/logs/_doc/1" editorHeaders) = some (route, pieces) ∧
          DeclaredFor route (deletion "/es/logs/_doc/1" editorHeaders) pieces ∧
          route.endpoint = .handler r.action ∧
          (route.access.operation? = none ∧ r.identity = none ∨
            ∃ operation, route.access.operation? = some operation ∧
              Entitled editorSettings editorVerifier editorHeaders operation r.identity) := by
  have hidentity : (Guard.withVerifier editorSettings editorVerifier).toOption.map (fun guard =>
      ((Router.mk (idleService guard) documentTable).serve logsWorld
        (deletion "/es/logs/_doc/1" editorHeaders)).call.map (·.identity)) =
      some (some (some ⟨"alice", ["editor"], "key-1"⟩)) := by
    decide +kernel
  obtain ⟨guard, hguard, hserve⟩ := Option.map_eq_some_iff.1 hidentity
  obtain ⟨r, hr, halice⟩ := Option.map_eq_some_iff.1 hserve
  have hguard := toOption_eq_some_iff.1 hguard
  have hrouter : Router.mount (idleService guard) documentTable =
      .ok ⟨idleService guard, documentTable⟩ := rfl
  exact ⟨guard, _, hguard, build_documentRoutes, hrouter, r, hr, halice,
    (Router.serves_entitled_only hguard build_documentRoutes rfl hrouter logsWorld _).2.1 r hr⟩

end SearchGateway.Gateway
