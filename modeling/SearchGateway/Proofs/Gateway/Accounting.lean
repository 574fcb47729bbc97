import SearchGateway.Proofs.Gateway.Counters
import SearchGateway.Proofs.Gateway.Denial
import SearchGateway.Proofs.Gateway.Events
import SearchGateway.Proofs.Gateway.Selection

/-!
# The account of a run

Each counter is what it says: the number of the requests that the handler has answered, that a stage
has turned away or resolved, or that nothing has served (`Server.keepsAccount_run`). What a request
adds to the account is a statement about the request (`Server.Counts`), from which all events follow
(`Server.mem_events_iff`). A server with metrics shows the account of all requests so far
(`Server.serve_metrics`).
-/

namespace SearchGateway.Gateway

open Http (Method Request)
open Routing (Pattern Route Stage Table)
open Security (Operation)

/-! ## Requests that nothing serves -/

/-- Whether a site has a use for a method, where `GET` stands for `HEAD` as well. -/
def Site.Takes (table : Table) (site : Site) (method : Method) : Prop :=
  method ∈ site.methods table ∨ method = .head ∧ .get ∈ site.methods table

/-- A page is asked for a file that is not there. -/
def Console.IsMissing (files : Files) (page : Page) (parameters : Option (Keyed String)) : Prop :=
  page = .file ∧ ∃ texts, parameters = some texts ∧
    load? files ((texts.get? "path").getD "") = none

/-- A request that nothing serves: its path leads nowhere, or to a site that has no use for its
method, or to a file of the console that is not there. -/
inductive Server.Unserved (server : Server) (world : World) (request : Request) : Prop where
  | path : siteFor? server.sites request.path = none → Unserved server world request
  | method {site pieces} : siteFor? server.sites request.path = some (site, pieces) →
      ¬ site.Takes server.router.table request.method → Unserved server world request
  | file {page pieces} : siteFor? server.sites request.path = some (.page page, pieces) →
      (request.method = .get ∨ request.method = .head) →
      Console.IsMissing world.files page (pathParameters (Pattern.ofPath page.path) pieces) →
      Unserved server world request

section

variable {s : Service} {table : Table} {world : World} {site : Site} {pieces : List String}
  {request : Request} {method : Method} {e : Event}

theorem isSome_routeFor?_iff {routes : List Route} :
    (routeFor? routes method).isSome ↔ method ∈ routes.map (·.method) ∨
      method = .head ∧ .get ∈ routes.map (·.method) := by
  have hfind (method : Method) : (routes.find? (·.method = method)).isSome ↔
      method ∈ routes.map (·.method) := by
    simp [List.find?_isSome]
  unfold routeFor?
  rw [Option.isSome_or, Bool.or_eq_true, hfind]
  by_cases hhead : method = .head
  · simp only [hhead, if_true, hfind, true_and]
  · simp [hhead]

theorem isSome_serveSite?_iff :
    (serveSite? s table world site pieces request).isSome ↔ site.Takes table request.method := by
  cases site with
  | declared path =>
      simp only [serveSite?, Option.isSome_map]
      exact isSome_routeFor?_iff
  | page page | metrics =>
      simp only [serveSite?, Site.Takes, Site.methods, List.mem_singleton, and_true]
      split <;> simp_all

section

variable {files : Files} {page : Console.Page} {parameters : Option (Keyed String)}

theorem events_serve_of_missing (h : Console.IsMissing files page parameters) :
    (Console.serve files page request parameters).events =
      [.unmatched request.method.name] := by
  obtain ⟨rfl, texts, rfl, hload⟩ := h
  simp only [Console.serve, hload]
  rfl

theorem events_serve_of_not_missing (h : ¬ Console.IsMissing files page parameters) :
    (Console.serve files page request parameters).events = [] := by
  cases page with
  | door | index => rfl
  | file =>
      cases parameters with
      | none => rfl
      | some texts =>
          cases hload : Console.load? files ((texts.get? "path").getD "") with
          | none => exact absurd ⟨rfl, texts, rfl, hload⟩ h
          | some response => simp only [Console.serve, hload, Exchange.answered]

theorem completion_console :
    (Console.serve files page request parameters).completion = none := by
  cases page with
  | door | index => rfl
  | file =>
      simp only [Console.serve]
      split
      · rfl
      · split <;> rfl

end

end

namespace Server

variable {server : Server} {world : World} {request : Request} {route : Route}
  {pieces : List String} {e : Event}

/-! ## Requests without a route -/

theorem not_unserved_of_matched (h : server.matchedRoute? request = some (route, pieces)) :
    ¬ server.Unserved world request := by
  obtain ⟨-, h⟩ := matchedRoute?_eq_some h
  obtain ⟨hsite, hroute⟩ := Gateway.matchedRoute?_eq_some h
  intro hunserved
  cases hunserved with
  | path hnone => exact absurd (hnone.symm.trans hsite) (by simp)
  | method hfound htakes =>
      cases hfound.symm.trans hsite
      exact htakes (isSome_routeFor?_iff.1 (Option.isSome_of_eq_some hroute))
  | file hfound => cases hfound.symm.trans hsite

theorem exists_site_of_not_unserved (h : ¬ server.Unserved world request) :
    ∃ site pieces, siteFor? server.sites request.path = some (site, pieces) ∧
      site.Takes server.router.table request.method := by
  cases hsite : siteFor? server.sites request.path with
  | none => exact absurd (.path hsite) h
  | some found => exact ⟨found.1, found.2, rfl, not_not.1 fun htakes => h (.method hsite htakes)⟩

theorem events_route_of_unserved (h : server.Unserved world request) :
    (server.route world request).events = [.unmatched request.method.name] := by
  cases h with
  | path hsite =>
      simp only [Server.route, hsite]
      rfl
  | method hsite htakes =>
      simp only [Server.route, hsite, serveAt,
        Option.not_isSome_iff_eq_none.1 (isSome_serveSite?_iff.not.2 htakes)]
      rfl
  | file hsite hread hmissing =>
      simp only [Server.route, hsite, serveAt, serveSite?, hread, if_true]
      exact events_serve_of_missing hmissing

/-- Of the requests without a route only those are counted that nothing serves. -/
theorem events_route_of_not_unserved
    (hmatched : Gateway.matchedRoute? server.sites server.router.table request = none)
    (h : ¬ server.Unserved world request) : (server.route world request).events = [] := by
  obtain ⟨site, pieces, hsite, htakes⟩ := exists_site_of_not_unserved h
  cases site with
  | declared path =>
      obtain ⟨route, hroute⟩ := Option.isSome_iff_exists.1 (isSome_routeFor?_iff.2 htakes)
      simp [Gateway.matchedRoute?, hsite, hroute] at hmatched
  | page page =>
      have hread : request.method = .get ∨ request.method = .head := by
        simpa [Site.Takes, Site.methods] using htakes
      simp only [Server.route, hsite, serveAt, serveSite?, hread, if_true]
      exact events_serve_of_not_missing fun hmissing => h (.file hsite hread hmissing)
  | metrics =>
      have hread : request.method = .get ∨ request.method = .head := by
        simpa [Site.Takes, Site.methods] using htakes
      simp only [Server.route, hsite, serveAt, serveSite?, hread, if_true]
      rfl

theorem completion_route_of_unmatched (world : World)
    (h : Gateway.matchedRoute? server.sites server.router.table request = none) :
    (server.route world request).call = none ∧ (server.route world request).completion = none := by
  cases hsite : siteFor? server.sites request.path with
  | none =>
      simp only [Server.route, hsite]
      exact ⟨rfl, rfl⟩
  | some found =>
      obtain ⟨site, pieces⟩ := found
      simp only [Server.route, hsite]
      refine ⟨(serveAt_of_unmatched world hsite h).1, ?_⟩
      cases site with
      | declared path =>
          have hroute : routeFor? (server.router.table.forPath path) request.method = none := by
            simpa [Gateway.matchedRoute?, hsite] using h
          simp only [serveAt, serveSite?, hroute, Option.map_none]
          rfl
      | page page =>
          simp only [serveAt, serveSite?]
          split_ifs
          · exact completion_console
          · rfl
      | metrics =>
          simp only [serveAt, serveSite?]
          split_ifs <;> rfl

theorem events_serve_of_unmatched (hmethod : request.method ≠ .options)
    (h : Gateway.matchedRoute? server.sites server.router.table request = none) :
    (server.serve world request).events = (server.route world request).events := by
  obtain ⟨hcall, hcompletion⟩ := completion_route_of_unmatched world h
  rw [serve_of_route hmethod hcall]
  simp [Exchange.finish, Exchange.mapResponse, hcompletion]

/-! ## What a request adds to the account -/

/-- A request comes to a stage of its route: no stage before it has anything against the request. -/
def ReachesStage (server : Server) (world : World) (request : Request) (route : Route)
    (pieces : List String) (stage : Stage) : Prop :=
  server.matchedRoute? request = some (route, pieces) ∧
    ∃ before after, route.access.stages = before ++ stage :: after ∧
      ∀ earlier ∈ before, Passes server.router.service world.indices route.endpoint request
        (pathParameters (Pattern.ofPath route.path) pieces) earlier

end Server

/-- The status of the response to a caller who is turned away. -/
def DenialKind.status : DenialKind → Nat
  | .unauthenticated => 401
  | .forbidden => 403

theorem DenialKind.status_injective {kind kind' : DenialKind} (h : kind.status = kind'.status) :
    kind = kind' := by
  cases kind <;> cases kind' <;> simp_all [status]

/-- What a request adds to the account of a server. -/
inductive Server.Counts (server : Server) (world : World) (request : Request) : Event → Prop where
  /-- The handler has answered the request before the deadline. -/
  | dispatched {route pieces r} : server.matchedRoute? request = some (route, pieces) →
      (server.serve world request).call = some r →
      (server.serve world request).finished = true →
      Counts server world request (.dispatched r.action route.access.dialect
        (server.serve world request).response.status)
  /-- The guard has turned the caller away. -/
  | denied {route pieces operation denial kind} :
      server.ReachesStage world request route pieces (.authorization operation) →
      server.router.service.guard.check request.headers operation = .error denial →
      (server.serve world request).response.status = kind.status →
      Counts server world request (.denied operation kind)
  /-- The request breaks a convention. -/
  | refused {route pieces failure} :
      server.ReachesStage world request route pieces .conventions →
      keepConventions server.router.service route.endpoint request = .error failure →
      Counts server world request (.refused failure.type)
  /-- The target of the request is resolved in some way, or not at all. -/
  | target {route pieces policy expression} :
      server.ReachesStage world request route pieces (.targets policy) →
      (pathParameters (Pattern.ofPath route.path) pieces).bind (·.get? "target") =
        some expression →
      Counts server world request (.target policy (.of (world.indices.select policy expression)))
  /-- Nothing serves the request. -/
  | unmatched : request.method ≠ .options → server.Unserved world request →
      Counts server world request (.unmatched request.method.name)

namespace Server

variable {server : Server} {world : World} {request : Request} {route : Route}
  {pieces : List String} {operation : Operation} {e : Event}

/-- What is counted for the call of the handler is counted if the deadline has not come first. -/
theorem events_serve : (server.serve world request).events =
    (server.exchange world request).events ++
      if (server.serve world request).finished then
        (server.exchange world request).completion.toList
      else [] := by
  cases hexpires : server.expires (server.exchange world request) <;>
    simp [serve, hexpires, Exchange.finish]

theorem events_serve_options (hmethod : request.method = .options) :
    (server.serve world request).events = [] := by
  rw [events_serve]
  simp [exchange, hmethod, Exchange.mapResponse, Exchange.answered]

theorem ReachesStage.mem_stages {stage : Stage}
    (h : server.ReachesStage world request route pieces stage) : stage ∈ route.access.stages := by
  obtain ⟨-, before, after, hstages, -⟩ := h
  simp [hstages]

/-! ### Requests with a route -/

theorem events_serve_of_matched (hmatched : server.matchedRoute? request = some (route, pieces)) :
    (server.serve world request).events =
      (serveMatched server.router.service world request route pieces).events ++
        if (server.serve world request).finished then
          ((server.serve world request).call.map fun r =>
            .dispatched r.action route.access.dialect
              (server.serve world request).response.status).toList
        else [] := by
  have hexchange := exchange_of_matched world hmatched
  have hevents : (server.exchange world request).events =
      (serveMatched server.router.service world request route pieces).events := by
    rw [hexchange]
    rfl
  rw [events_serve, hevents]
  split
  · rename_i hfinished
    have hstatus : (server.serve world request).response.status =
        (serveMatched server.router.service world request route pieces).response.status := by
      rw [serve_of_finished hfinished, hexchange]
      simp [Exchange.finish, Exchange.mapResponse]
    have hcompletion : (server.exchange world request).completion =
        (serveMatched server.router.service world request route pieces).completion := by
      rw [hexchange]
      rfl
    rw [hcompletion, serveMatched, serveRoute, completion_passStages, call_serve_of_matched world
      hmatched, hstatus]
    rfl
  · rfl

theorem status_serve_of_denied (world : World) {denial : Security.Denial}
    (hmatched : server.matchedRoute? request = some (route, pieces))
    (hoperation : route.access.operation? = some operation)
    (hcheck : server.router.service.guard.check request.headers operation = .error denial) :
    (server.serve world request).response.status = (denialKind denial).status := by
  rw [serve_of_denied world hmatched hoperation hcheck, status_asSent, status_stamp]
  cases denial <;> rfl

theorem counts_of_mem_events_serveMatched
    (hmatched : server.matchedRoute? request = some (route, pieces))
    (h : e ∈ (serveMatched server.router.service world request route pieces).events) :
    server.Counts world request e := by
  obtain ⟨before, stage, after, hstages, hbefore, hnoted⟩ := mem_events_passStages.1 h
  have hreaches : server.ReachesStage world request route pieces stage :=
    ⟨hmatched, before, after, hstages, hbefore⟩
  cases stage with
  | authorization operation =>
      have hoperation := operation?_of_mem_stages hreaches.mem_stages
      cases hcheck : server.router.service.guard.check request.headers operation with
      | ok identity => simp [noted?, hcheck] at hnoted
      | error denial =>
          simp only [noted?, hcheck, Option.some.injEq] at hnoted
          exact hnoted ▸ .denied hreaches hcheck
            (status_serve_of_denied world hmatched hoperation hcheck)
  | conventions =>
      cases hkept : keepConventions server.router.service route.endpoint request with
      | ok kept => simp [noted?, hkept] at hnoted
      | error failure =>
          simp only [noted?, hkept, Option.some.injEq] at hnoted
          exact hnoted ▸ .refused hreaches hkept
  | targets policy =>
      obtain ⟨expression, hexpression, rfl⟩ := Option.map_eq_some_iff.1 hnoted
      exact .target hreaches hexpression

theorem ReachesStage.mem_events {stage : Stage}
    (h : server.ReachesStage world request route pieces stage)
    (hnoted : noted? server.router.service world.indices route.endpoint request
      (pathParameters (Pattern.ofPath route.path) pieces) stage = some e) :
    e ∈ (server.serve world request).events := by
  obtain ⟨hmatched, before, after, hstages, hbefore⟩ := h
  rw [events_serve_of_matched hmatched]
  exact List.mem_append_left _ (mem_events_passStages.2
    ⟨before, stage, after, hstages, hbefore, hnoted⟩)

theorem mem_events_of_counts (h : server.Counts world request e) :
    e ∈ (server.serve world request).events := by
  cases h with
  | dispatched hmatched hcall hfinished =>
      rw [events_serve_of_matched hmatched, hfinished, hcall]
      simp
  | denied hreaches hcheck hstatus =>
      have hkind := status_serve_of_denied world hreaches.1
        (operation?_of_mem_stages hreaches.mem_stages) hcheck
      rw [DenialKind.status_injective (hstatus.symm.trans hkind)]
      exact hreaches.mem_events (by simp only [noted?, hcheck])
  | refused hreaches hkept => exact hreaches.mem_events (by simp only [noted?, hkept])
  | target hreaches hexpression =>
      exact hreaches.mem_events (by simp only [noted?, hexpression, Option.map_some])
  | unmatched hmethod hunserved =>
      have hmatched : server.matchedRoute? request = none :=
        Option.eq_none_iff_forall_ne_some.2 fun matched hmatched =>
          not_unserved_of_matched hmatched hunserved
      rw [matchedRoute?, if_neg hmethod] at hmatched
      rw [events_serve_of_unmatched hmethod hmatched, events_route_of_unserved hunserved]
      exact List.mem_singleton_self _

theorem events_serve_of_no_route (world : World) (h : server.matchedRoute? request = none) :
    server.Counts world request (.unmatched request.method.name) ∧
        (server.serve world request).events = [.unmatched request.method.name] ∨
      (server.serve world request).events = [] := by
  by_cases hmethod : request.method = .options
  · exact .inr (events_serve_options hmethod)
  · rw [matchedRoute?, if_neg hmethod] at h
    rw [events_serve_of_unmatched hmethod h]
    by_cases hunserved : server.Unserved world request
    · exact .inl ⟨.unmatched hmethod hunserved, events_route_of_unserved hunserved⟩
    · exact .inr (events_route_of_not_unserved h hunserved)

/-- The events of a request are what it adds to the account. -/
theorem mem_events_iff :
    e ∈ (server.serve world request).events ↔ server.Counts world request e := by
  refine ⟨fun h => ?_, mem_events_of_counts⟩
  cases hmatched : server.matchedRoute? request with
  | none =>
      rcases events_serve_of_no_route world hmatched with ⟨hcounts, hevents⟩ | hevents
      · rw [hevents, List.mem_singleton] at h
        exact h ▸ hcounts
      · rw [hevents] at h
        cases h
  | some matched =>
      rw [events_serve_of_matched hmatched, List.mem_append] at h
      rcases h with h | h
      · exact counts_of_mem_events_serveMatched hmatched h
      · split at h
        · rename_i hfinished
          obtain ⟨r, hcall, rfl⟩ := Option.map_eq_some_iff.1 (Option.mem_toList.1 h)
          exact .dispatched hmatched hcall hfinished
        · cases h

instance : Decidable (server.Counts world request e) :=
  decidable_of_iff _ mem_events_iff

theorem nodup_events : (server.serve world request).events.Nodup := by
  cases hmatched : server.matchedRoute? request with
  | none =>
      rcases events_serve_of_no_route world hmatched with ⟨-, hevents⟩ | hevents <;> simp [hevents]
  | some matched =>
      rw [events_serve_of_matched hmatched]
      refine List.nodup_append.2 ⟨nodup_events_passStages (nodup_stages _), ?_, ?_⟩
      · split
        · cases (server.serve world request).call <;> simp
        · exact List.nodup_nil
      · rintro e hevent e' hcompletion rfl
        split at hcompletion
        · obtain ⟨r, -, rfl⟩ := Option.map_eq_some_iff.1 (Option.mem_toList.1 hcompletion)
          obtain ⟨_, _, _, -, -, hnoted⟩ := mem_events_passStages.1 hevent
          cases stage?_of_noted? hnoted
        · cases hcompletion

/-- A request ends once. -/
theorem length_final_events_le (server : Server) (world : World) (request : Request) :
    ((server.serve world request).events.filter Event.isFinal).length ≤ 1 := by
  cases hmatched : server.matchedRoute? request with
  | none =>
      refine Nat.le_trans (List.length_filter_le _ _) ?_
      rcases events_serve_of_no_route world hmatched with ⟨-, hevents⟩ | hevents <;> simp [hevents]
  | some matched =>
      have hfinal : ((serveMatched server.router.service world request matched.1
          matched.2).events.filter Event.isFinal).length +
          (server.serve world request).call.toList.length ≤ 1 := by
        rw [call_serve_of_matched world hmatched]
        exact length_final_passStages_le
      have hcompletion : ((if (server.serve world request).finished then
          ((server.serve world request).call.map fun r =>
            Event.dispatched r.action matched.1.access.dialect
              (server.serve world request).response.status).toList
          else []).filter Event.isFinal).length ≤
          (server.serve world request).call.toList.length := by
        refine Nat.le_trans (List.length_filter_le _ _) ?_
        split <;> cases (server.serve world request).call <;> simp
      rw [events_serve_of_matched hmatched, List.filter_append, List.length_append]
      omega

/-- A request ends in one way. -/
theorem Counts.eq_of_isFinal {e' : Event} (h : server.Counts world request e)
    (h' : server.Counts world request e') (hfinal : e.isFinal) (hfinal' : e'.isFinal) : e = e' := by
  have hmem := List.mem_filter.2 ⟨mem_events_iff.2 h, hfinal⟩
  have hmem' := List.mem_filter.2 ⟨mem_events_iff.2 h', hfinal'⟩
  have hlength := length_final_events_le server world request
  generalize (server.serve world request).events.filter Event.isFinal = final at *
  match final with
  | [] => cases hmem
  | [_] => rw [List.mem_singleton.1 hmem, List.mem_singleton.1 hmem']

/-! ## Runs -/

/-- What happens to a server: a request comes in, or the registry is written to. -/
inductive Step where
  | request (request : Request)
  | write (write : Registry.Write)

/-- The world after a step. -/
def after (server : Server) (world : World) : Step → World
  | .request request => { world with log := world.log ++ (server.serve world request).events }
  | .write write => { world with indices := world.indices.after write }

/-- The world after several steps. -/
def run (server : Server) (world : World) (steps : List Step) : World :=
  steps.foldl server.after world

/-- The requests among several steps, each with the world that it is served in. -/
def requests (server : Server) (world : World) : List Step → List (World × Request)
  | [] => []
  | .request request :: steps =>
    (world, request) :: server.requests (server.after world (.request request)) steps
  | .write write :: steps => server.requests (server.after world (.write write)) steps

/-- How many requests add an event to the account. -/
def tallyOf (server : Server) (requests : List (World × Request)) (e : Event) : Nat :=
  requests.countP fun served => server.Counts served.1 served.2 e

theorem count_events : (server.serve world request).events.count e =
    if server.Counts world request e then 1 else 0 := by
  split
  · rename_i h
    exact List.count_eq_one_of_mem nodup_events (mem_events_iff.2 h)
  · rename_i h
    exact List.count_eq_zero.2 fun hmem => h (mem_events_iff.1 hmem)

theorem count_log_run (steps : List Step) :
    (server.run world steps).log.count e =
      world.log.count e + server.tallyOf (server.requests world steps) e := by
  induction steps generalizing world with
  | nil => rfl
  | cons step steps ih =>
      rw [run, List.foldl_cons, ← run, ih]
      cases step with
      | request request =>
          simp only [after, requests, tallyOf, List.countP_cons, List.count_append, count_events,
            decide_eq_true_eq]
          omega
      | write write => rfl

/-- The account that the metrics give of the requests of a run. -/
structure KeepsAccount (server : Server) (world : World) (steps : List Step) : Prop where
  shown : ∀ e n, s!"{Event.counter e} {n}" ∈ sampleLines (server.run world steps).log ↔
    0 < n ∧ n = server.tallyOf (server.requests world steps) e
  once : ∀ served ∈ server.requests world steps, ∀ e e', server.Counts served.1 served.2 e →
    server.Counts served.1 served.2 e' → e.isFinal → e'.isFinal → e = e'

/-- In every run of a server that starts without an account, each counter shows the number of the
requests that have come to what it counts, and there is none if there are no such requests. No
request is counted as ended in more than one way. -/
theorem keepsAccount_run (server : Server) (indices : Registry.Snapshot) (files : Files)
    (steps : List Step) : server.KeepsAccount { indices, files } steps where
  shown e n := by
    rw [line_mem_sampleLines_iff, count_log_run, List.count_nil, Nat.zero_add]
  once _ _ _ _ h h' := h.eq_of_isFinal h'

/-! ## The exposition -/

/-- A server with metrics shows the account so far. -/
theorem serve_metrics {settings : Settings} {service : Service}
    (hserver : Server.standard settings service true = .ok server)
    (hpath : request.path = "/metrics") (hmethod : request.method = .get) (world : World) :
    (server.serve world request).response.status = 200 ∧
      (server.serve world request).response.body = Text.Utf8.encode (exposition world.log) := by
  have hpieces : Routing.pieces? request.path = some ["metrics"] := by
    rw [hpath]
    decide +kernel
  have hpattern : Pattern.ofPath Site.metrics.path = [.literal "metrics"] := by decide +kernel
  have hmetrics : .metrics ∈ server.sites := by
    obtain rfl := Except.ok.inj (hserver.symm.trans (standard_eq_gateway settings service true))
    exact List.mem_append_right _ (List.mem_singleton_self _)
  have hsite : siteFor? server.sites request.path = some (.metrics, ["metrics"]) := by
    obtain ⟨found, hfound⟩ := exists_siteFor? hpieces hmetrics (hpattern ▸ .literal .nil)
    obtain ⟨-, hmem, hfits, -⟩ := siteFor?_eq_some hfound
    cases found with
    | metrics => exact hfound
    | page page => exact absurd (head?_of_fits_page hfits) (by simp)
    | declared path => exact absurd hfits (not_fits_of_declared hserver hmem (.inr rfl))
  have hroute : server.route world request = .answered (metricsResponse world.log) := by
    simp only [Server.route, hsite, serveAt, serveSite?, hmethod, true_or, if_true]
  rw [serve_of_route (by rw [hmethod]; decide) (by rw [hroute]; rfl), hroute, hmethod]
  simp only [Exchange.answered, Exchange.mapResponse, Exchange.finish, status_asSent, status_stamp]
  refine ⟨rfl, ?_⟩
  rw [asSent, if_neg (by decide), Http.Response.body_withLength]
  rfl

end Server

end SearchGateway.Gateway
