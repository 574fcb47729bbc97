import SearchGateway.Proofs.Gateway.Resolution
import SearchGateway.Proofs.Routing.Precedence
import SearchGateway.Proofs.Text.Split

/-!
# Which of the declared routes a request takes

A request takes the route that is declared for its method at the pattern that goes first among all
patterns that fit its path (`Server.matchedRoute?_eq_some_iff`). The order of the declarations plays
no part in that.
-/

namespace SearchGateway.Routing

open Http (Method)

def Route.pattern (r : Route) : Pattern :=
  Pattern.ofPath r.path

namespace Table

/-- A route serves its own method, and a route for `GET` serves `HEAD` as well unless its path has a
route for `HEAD`. -/
def Serves (t : Table) (r : Route) (method : Method) : Prop :=
  r.method = method ∨ method = .head ∧ r.method = .get ∧ t.find? .head r.path = none

instance (t : Table) (r : Route) (method : Method) : Decidable (t.Serves r method) :=
  inferInstanceAs (Decidable (_ ∨ _))

/-- No pattern of the table that fits the pieces of a path precedes the pattern of the route. -/
def GoesFirst (t : Table) (r : Route) (pieces : List String) : Prop :=
  ∀ other ∈ t.routes, Fits other.pattern pieces → ¬ other.pattern.Precedes r.pattern

instance (t : Table) (r : Route) (pieces : List String) : Decidable (t.GoesFirst r pieces) :=
  inferInstanceAs (Decidable (∀ other ∈ t.routes, _))

/-- The route that is declared first of those for a method and the pieces of a path. -/
def firstFor? (t : Table) (method : Method) (pieces : List String) : Option Route :=
  t.routes.find? fun r => t.Serves r method ∧ Fits r.pattern pieces

end Table

end SearchGateway.Routing

namespace SearchGateway.Gateway

open Http (Method Request)
open Routing (Fits Pattern Route Table)

variable {table : Table} {route : Route} {sites : List Site} {site : Site} {path : String}
  {pieces : List String} {method : Method} {request : Request}

/-! ## The method -/

theorem routeFor?_forPath_eq_some_iff :
    routeFor? (table.forPath path) method = some route ↔
      route ∈ table.routes ∧ route.path = path ∧ table.Serves route method := by
  unfold routeFor? Table.Serves
  rw [Table.find?_forPath, Table.find?_forPath, Option.or_eq_some_iff,
    Table.find?_eq_some_iff]
  constructor
  · rintro (⟨hmem, hmethod, hpath⟩ | ⟨hnone, hget⟩)
    · exact ⟨hmem, hpath, .inl hmethod⟩
    · split at hget
      · rename_i hhead
        obtain ⟨hmem, hmethod, rfl⟩ := Table.find?_eq_some_iff.1 hget
        exact ⟨hmem, rfl, .inr ⟨hhead, hmethod, hhead ▸ hnone⟩⟩
      · cases hget
  · rintro ⟨hmem, rfl, hmethod | ⟨rfl, hget, hnone⟩⟩
    · exact .inl ⟨hmem, hmethod, rfl⟩
    · exact .inr ⟨hnone, by simpa using Table.find?_eq_some_iff.2 ⟨hmem, hget, rfl⟩⟩

/-! ## The site -/

/-- A path with these pieces that lies neither below `/ui` nor below `/metrics`. -/
structure OutsideConsole (path : String) (pieces : List String) : Prop where
  path : Routing.pieces? path = some pieces
  notConsole : pieces.head? ≠ some "ui"
  notMetrics : pieces.head? ≠ some "metrics"

theorem exists_siteFor? (hpath : Routing.pieces? path = some pieces) (hsite : site ∈ sites)
    (hfits : Fits (Pattern.ofPath site.path) pieces) :
    ∃ found, siteFor? sites path = some (found, pieces) := by
  have hmem : (Pattern.ofPath site.path, site) ∈
      sites.map fun site => (Pattern.ofPath site.path, site) :=
    List.mem_map.2 ⟨site, hsite, rfl⟩
  obtain ⟨found, hfound⟩ := Option.isSome_iff_exists.1 (Routing.isSome_select? hmem hfits)
  exact ⟨found, by simp [siteFor?, hpath, hfound]⟩

theorem mem_tableSites (hroute : route ∈ table.routes) :
    .declared route.path ∈ tableSites table :=
  List.mem_map.2 ⟨route.path, List.mem_eraseDups.2 (List.mem_map.2 ⟨route, hroute, rfl⟩), rfl⟩

theorem exists_route_of_mem_tableSites (h : .declared path ∈ tableSites table) :
    ∃ route ∈ table.routes, route.path = path := by
  obtain ⟨path', hmem, heq⟩ := List.mem_map.1 h
  cases heq
  exact List.mem_map.1 (List.mem_eraseDups.1 hmem)

theorem head?_of_fits_page {page : Console.Page}
    (hfits : Fits (Pattern.ofPath page.path) pieces) : pieces.head? = some "ui" := by
  have hpattern : ∃ rest, Pattern.ofPath page.path = .literal "ui" :: rest := by
    cases page with
    | door => exact ⟨[], by decide +kernel⟩
    | index => exact ⟨[.literal ""], by decide +kernel⟩
    | file => exact ⟨[.rest "path"], by decide +kernel⟩
  obtain ⟨rest, hpattern⟩ := hpattern
  rw [hpattern] at hfits
  cases hfits
  rfl

theorem head?_of_fits_metrics (hfits : Fits (Pattern.ofPath Site.metrics.path) pieces) :
    pieces.head? = some "metrics" := by
  have hpattern : Pattern.ofPath Site.metrics.path = [.literal "metrics"] := by decide +kernel
  rw [hpattern] at hfits
  cases hfits
  rfl

theorem OutsideConsole.placeOf? (hplace : OutsideConsole path pieces) :
    Console.placeOf? path = none := by
  cases hafter : Text.after? Console.start.toList path.toList with
  | none => simp [Console.placeOf?, hafter]
  | some rest =>
      have hstart : Console.start.toList = ['/', 'u', 'i', '/'] := by decide
      have htext := hstart ▸ Text.after?_eq_some_iff.1 hafter
      have hpieces : Routing.pieces? path =
          some ("ui" :: (Text.split (· == '/') rest).map String.ofList) := by
        simp [Routing.pieces?, Text.splitAt, htext, Text.split]
      rw [hplace.path, Option.some.injEq] at hpieces
      exact absurd (congrArg List.head? hpieces) hplace.notConsole

/-- No route has served the request: the handler is not called, the answer says that there is
nothing, and the request is counted as one that no route serves. -/
structure Served.IsUnmatched (e : Served) (method : Method) : Prop where
  call : e.call = none
  status : e.response.status = 404
  events : e.events = [.unmatched method.name]

namespace Server

variable {server : Server}

theorem mem_sites (hroute : route ∈ server.router.table.routes) :
    .declared route.path ∈ server.sites :=
  List.mem_append_left _ (List.mem_append_left _ (mem_tableSites hroute))

theorem mem_tableSites_of_mem_sites (h : .declared path ∈ server.sites) :
    .declared path ∈ tableSites server.router.table := by
  unfold sites at h
  split_ifs at h <;> simpa using h

theorem declared_of_fits (hplace : OutsideConsole path pieces) (hsite : site ∈ server.sites)
    (hfits : Fits (Pattern.ofPath site.path) pieces) :
    ∃ route ∈ server.router.table.routes, site = .declared route.path := by
  cases site with
  | page page => exact absurd (head?_of_fits_page hfits) hplace.notConsole
  | metrics => exact absurd (head?_of_fits_metrics hfits) hplace.notMetrics
  | declared path =>
      obtain ⟨route, hroute, rfl⟩ :=
        exists_route_of_mem_tableSites (mem_tableSites_of_mem_sites hsite)
      exact ⟨route, hroute, rfl⟩

/-- A request takes the route that is declared for its method at the pattern that goes first. -/
theorem matchedRoute?_eq_some_iff (hmethod : request.method ≠ .options)
    (hplace : OutsideConsole request.path pieces)
    (houtline : ∀ r ∈ server.router.table.routes, ∀ r' ∈ server.router.table.routes,
      r.pattern.outline = r'.pattern.outline → r.path = r'.path) :
    server.matchedRoute? request = some (route, pieces) ↔
      route ∈ server.router.table.routes ∧ server.router.table.Serves route request.method ∧
        Fits route.pattern pieces ∧ server.router.table.GoesFirst route pieces := by
  constructor
  · intro h
    obtain ⟨-, h⟩ := matchedRoute?_eq_some h
    obtain ⟨hsite, hroute⟩ := Gateway.matchedRoute?_eq_some h
    obtain ⟨hmem, -, hserves⟩ := routeFor?_forPath_eq_some_iff.1 hroute
    obtain ⟨-, -, hfits, hleast⟩ := siteFor?_eq_some hsite
    exact ⟨hmem, hserves, hfits, fun other hother =>
      hleast (.declared other.path) (mem_sites hother)⟩
  · rintro ⟨hmem, hserves, hfits, hfirst⟩
    obtain ⟨site, hsite⟩ := exists_siteFor? hplace.path (mem_sites hmem) hfits
    obtain ⟨-, hfound, hfits', hleast⟩ := siteFor?_eq_some hsite
    obtain ⟨other, hother, rfl⟩ := declared_of_fits hplace hfound hfits'
    have hfits' : Fits other.pattern pieces := hfits'
    -- neither of the two patterns precedes the other, so they are the same one
    have hpath : other.path = route.path := by
      rcases hfits'.precedes_or_outline_eq hfits with hbefore | hafter | heq
      · exact absurd hbefore (hfirst other hother hfits')
      · exact absurd hafter (hleast (.declared route.path) (mem_sites hmem) hfits)
      · exact houtline other hother route hmem heq
    have hroute : routeFor? (server.router.table.forPath other.path) request.method =
        some route :=
      routeFor?_forPath_eq_some_iff.2 ⟨hmem, hpath.symm, hserves⟩
    simp only [Server.matchedRoute?, hmethod, if_false, Gateway.matchedRoute?, hsite, hroute,
      Option.map_some]

/-! ## Requests without a route -/

theorem finish_route_of_unmatched (world : World) (hmethod : request.method ≠ .options)
    (hplace : OutsideConsole request.path pieces) (h : server.matchedRoute? request = none) :
    (server.route world request).finish.IsUnmatched request.method := by
  have hunmatched : Console.unmatched request =
      .answered (.ofStatus 404) [.unmatched request.method.name] := by
    simp [Console.unmatched, hplace.placeOf?]
  simp only [Server.matchedRoute?, hmethod, if_false] at h
  cases hsite : siteFor? server.sites request.path with
  | none =>
      simp only [Server.route, hsite, hunmatched]
      exact ⟨rfl, rfl, rfl⟩
  | some found =>
      obtain ⟨site, pieces'⟩ := found
      obtain ⟨hpath, hmem, hfits, -⟩ := siteFor?_eq_some hsite
      cases hpath.symm.trans hplace.path
      obtain ⟨route, -, rfl⟩ := declared_of_fits hplace hmem hfits
      have hroute : routeFor? (server.router.table.forPath route.path) request.method = none := by
        simpa [Gateway.matchedRoute?, hsite] using h
      simp only [Server.route, hsite, serveAt, serveSite?, hroute, Option.map_none, hunmatched]
      exact ⟨rfl, rfl, rfl⟩

/-- A request that takes no route is answered as one that no route serves. -/
theorem isUnmatched_serve (hmethod : request.method ≠ .options)
    (hplace : OutsideConsole request.path pieces) (h : server.matchedRoute? request = none)
    (world : World) : (server.serve world request).IsUnmatched request.method := by
  obtain ⟨hcall, hstatus, hevents⟩ := finish_route_of_unmatched world hmethod hplace h
  rw [serve_of_route hmethod hcall]
  constructor
  · exact hcall
  · simpa only [Exchange.finish, Exchange.mapResponse, status_asSent, status_stamp] using hstatus
  · exact hevents

/-! ## The standard table -/

/-- The patterns of the standard table are alike in no two paths, and each begins with a word. -/
theorem standard_patterns :
    (Routing.gatewayTable.paths.map fun path => (Pattern.ofPath path).outline).Nodup ∧
      ∀ path ∈ Routing.gatewayTable.paths, ∃ segment ∈ (Pattern.ofPath path).head?,
        segment.breadth = 0 ∧ segment ≠ .literal "ui" ∧ segment ≠ .literal "metrics" := by
  decide +kernel

theorem path_eq_of_outline_eq (htable : Table.standard = .ok table) :
    ∀ r ∈ table.routes, ∀ r' ∈ table.routes,
      r.pattern.outline = r'.pattern.outline → r.path = r'.path := by
  rw [Table.standard_eq_ok] at htable
  cases htable
  have hmem {r : Route} (hr : r ∈ Routing.gatewayTable.routes) :
      r.path ∈ Routing.gatewayTable.paths :=
    List.mem_eraseDups.2 (List.mem_map.2 ⟨r, hr, rfl⟩)
  intro r hr r' hr' heq
  exact List.inj_on_of_nodup_map standard_patterns.1 (hmem hr) (hmem hr') heq

theorem head?_of_mem_paths : ∀ path ∈ Routing.gatewayTable.paths,
    ∃ segment ∈ (Pattern.ofPath path).head?, segment.breadth = 0 ∧ segment ≠ .literal "ui" ∧
      segment ≠ .literal "metrics" :=
  standard_patterns.2

theorem not_fits_of_declared {settings : Settings} {service : Service} {metrics : Bool}
    {word : String} (hserver : Server.standard settings service metrics = .ok server)
    (hsite : .declared path ∈ server.sites) (hword : word = "ui" ∨ word = "metrics") :
    ¬ Fits (Pattern.ofPath path) (word :: pieces) := by
  obtain ⟨path', hpath, heq⟩ := List.mem_map.1 (mem_tableSites_of_mem_sites hsite)
  cases heq
  obtain ⟨segment, hhead, hbreadth, hui, hmetrics⟩ :=
    head?_of_mem_paths path (table_eq_gatewayTable hserver ▸ hpath)
  obtain ⟨pattern, hpattern⟩ := List.head?_eq_some_iff.1 hhead
  rw [hpattern]
  intro hfits
  cases hfits with
  | literal =>
      rcases hword with rfl | rfl
      · exact hui rfl
      · exact hmetrics rfl
  | parameter | rest => cases hbreadth

/-- A server serves a request as its table declares: by the stages and the endpoint of the route
that is declared first for the method and the path, and as a request that no route serves if none is
declared for them. -/
structure DispatchesDeclared (server : Server) (request : Request) (pieces : List String) :
    Prop where
  served : ∀ first, server.router.table.firstFor? request.method pieces = some first →
    server.matchedRoute? request = some (first, pieces) ∧
      ∀ world, server.route world request =
        serveMatched server.router.service world request first pieces
  unserved : server.router.table.firstFor? request.method pieces = none →
    ∀ world, (server.serve world request).IsUnmatched request.method

theorem firstFor?_eq_some (h : table.firstFor? method pieces = some route) :
    route ∈ table.routes ∧ table.Serves route method ∧ Fits route.pattern pieces :=
  ⟨List.mem_of_find?_eq_some h, by simpa using List.find?_some h⟩

variable {settings : Settings} {service : Service} {metrics : Bool}

/-- A request to a gateway with the standard routes is served as the table declares exactly if no
pattern that fits its path precedes the pattern of the route that is declared first for it. Whatever
is declared first, the request takes the route for its method at the pattern that goes first; if
there is none, it is answered as one that no route serves. -/
theorem dispatchesDeclared_iff (hserver : Server.standard settings service metrics = .ok server)
    (hmethod : request.method ≠ .options) (hplace : OutsideConsole request.path pieces) :
    (server.DispatchesDeclared request pieces ↔
      ∀ first, server.router.table.firstFor? request.method pieces = some first →
        server.router.table.GoesFirst first pieces) ∧
    (∀ route, server.matchedRoute? request = some (route, pieces) ↔
      route ∈ server.router.table.routes ∧ server.router.table.Serves route request.method ∧
        Fits route.pattern pieces ∧ server.router.table.GoesFirst route pieces) ∧
    (server.matchedRoute? request = none →
      ∀ world, (server.serve world request).IsUnmatched request.method) := by
  have hmatched := fun route => (matchedRoute?_eq_some_iff hmethod hplace
    (path_eq_of_outline_eq (standard_eq_ok hserver).2) :
      server.matchedRoute? request = some (route, pieces) ↔ _)
  refine ⟨⟨fun h first hfirst => ?_, fun h => ⟨fun first hfirst => ?_, fun hnone => ?_⟩⟩, hmatched,
    isUnmatched_serve hmethod hplace⟩
  · obtain ⟨-, -, -, hgoesFirst⟩ := (hmatched first).1 (h.served first hfirst).1
    exact hgoesFirst
  · obtain ⟨hmem, hserves, hfits⟩ := firstFor?_eq_some hfirst
    have hroute := (hmatched first).2 ⟨hmem, hserves, hfits, h first hfirst⟩
    exact ⟨hroute, fun world => route_of_matched world hroute⟩
  · refine isUnmatched_serve hmethod hplace ?_
    cases hroute : server.matchedRoute? request with
    | none => rfl
    | some taken =>
        obtain ⟨route, pieces'⟩ := taken
        have hpath := (declaredFor_of_matched (matchedRoute?_eq_some hroute).2).path
        cases hpath.symm.trans hplace.path
        obtain ⟨hmem, hserves, hfits, -⟩ := (hmatched route).1 hroute
        have hrefused : server.router.table.Serves route request.method →
            ¬ Fits route.pattern pieces := by
          simpa using List.find?_eq_none.1 hnone route hmem
        exact absurd hfits (hrefused hserves)

def plainRequest (method : Method) (path : String) : Request where
  method
  path
  query := ""
  headers := []
  body := .empty

def indexRoute : Route where
  method := .get
  path := "/api/index/:target"
  access := .permitted .native .indexGet
  endpoint := .handler .indexGet

/-- Of the two routes whose patterns fit, the one that is declared first is taken. -/
theorem dispatchesDeclared_index :
    Server.standard default (idleService openGuard) true = .ok openGateway ∧
    OutsideConsole "/api/index/_mapping" ["api", "index", "_mapping"] ∧
    openGateway.router.table.firstFor? .get ["api", "index", "_mapping"] = some indexRoute ∧
    openGateway.DispatchesDeclared (plainRequest .get "/api/index/_mapping")
      ["api", "index", "_mapping"] := by
  have hserver : Server.standard default (idleService openGuard) true = .ok openGateway :=
    standard_eq_gateway default (idleService openGuard) true
  have hplace : OutsideConsole "/api/index/_mapping" ["api", "index", "_mapping"] :=
    ⟨by decide +kernel, by decide, by decide⟩
  have hfirst : openGateway.router.table.firstFor? .get ["api", "index", "_mapping"] =
      some indexRoute := by
    decide +kernel
  have hgoesFirst : openGateway.router.table.GoesFirst indexRoute ["api", "index", "_mapping"] := by
    decide +kernel
  have hmethod : (plainRequest .get "/api/index/_mapping").method ≠ .options := nofun
  refine ⟨hserver, hplace, hfirst, (dispatchesDeclared_iff hserver hmethod hplace).1.2 ?_⟩
  intro first h
  cases hfirst.symm.trans h
  exact hgoesFirst

def searchRoute : Route where
  method := .post
  path := "/api/:target/_search"
  access := .permitted .native .searchV1
  endpoint := .handler .searchV1

/-- An index that is named `user` is not searched: the pattern of a single user takes the path. -/
theorem undispatched_search :
    ¬ ∀ (settings : Settings) (service : Service) (metrics : Bool) (server : Server),
      Server.standard settings service metrics = .ok server →
      ∀ (request : Request) (pieces : List String), request.method ≠ .options →
        OutsideConsole request.path pieces → server.DispatchesDeclared request pieces := by
  intro hdispatches
  have hserver : Server.standard default (idleService openGuard) true = .ok openGateway :=
    standard_eq_gateway default (idleService openGuard) true
  have hplace : OutsideConsole "/api/user/_search" ["api", "user", "_search"] :=
    ⟨by decide +kernel, by decide, by decide⟩
  have hfirst : openGateway.router.table.firstFor? .post ["api", "user", "_search"] =
      some searchRoute := by
    decide +kernel
  have hunmatched : openGateway.matchedRoute? (plainRequest .post "/api/user/_search") = none := by
    decide +kernel
  have hserved := (hdispatches _ _ _ _ hserver (plainRequest .post "/api/user/_search") _ nofun
    hplace).served _ hfirst
  cases hunmatched.symm.trans hserved.1

end Server

end SearchGateway.Gateway
