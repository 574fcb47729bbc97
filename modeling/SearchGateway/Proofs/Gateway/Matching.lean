import SearchGateway.Gateway.Server
import SearchGateway.Proofs.Gateway.Passage
import SearchGateway.Proofs.Lists
import SearchGateway.Proofs.Routing.Precedence

/-!
# The route that a request takes

The path and the method of a request decide about its route (`matchedRoute?`). A router or a server
that has a route for a request serves the request by it, and otherwise does not call the handler.
-/

namespace SearchGateway.Gateway

open Http (Request)
open Routing (Fits Pattern Route Table)

/-! ## Parameters -/

/-- The text that a piece of a path stands for; nothing if its bytes are no text. -/
def pieceText? (piece : String) : Option String :=
  Text.Utf8.decode? (Http.percentDecode (Text.Utf8.encode piece))

/-- The text that a path has for a name of a pattern. -/
def parameterText? (pattern : Pattern) (pieces : List String) (name : String) : Option String :=
  ((pattern.bind pieces).find? (·.1 == name)).bind fun bound => pieceText? bound.2

/-- Whether all that a pattern takes from a path is text. -/
def TextOnly (pattern : Pattern) (pieces : List String) : Prop :=
  ∀ bound ∈ pattern.bind pieces, (pieceText? bound.2).isSome

instance (pattern : Pattern) (pieces : List String) : Decidable (TextOnly pattern pieces) :=
  inferInstanceAs (Decidable (∀ bound ∈ pattern.bind pieces, (pieceText? bound.2).isSome))

variable {pattern : Pattern} {pieces : List String}

theorem isSome_pathParameters :
    (pathParameters pattern pieces).isSome ↔ TextOnly pattern pieces := by
  simp only [pathParameters, Option.isSome_map, isSome_mapM_iff]
  rfl

theorem get?_pathParameters {parameters : Keyed String} (hfits : Fits pattern pieces)
    (hnames : pattern.names.Nodup) (h : pathParameters pattern pieces = some parameters)
    (name : String) : parameters.get? name = parameterText? pattern pieces name := by
  obtain ⟨texts, htexts, rfl⟩ := Option.map_eq_some_iff.1 h
  have hall := mapM_eq_some_iff.1 htexts
  have hbound : ((pattern.bind pieces).map (·.1)).Nodup := hfits.names_bind ▸ hnames
  -- decoding keeps the names, so they are still distinct
  have hkeys : texts.map (·.1) = (pattern.bind pieces).map (·.1) := by
    have hentries : List.Forall₂ (fun bound entry : String × String => bound.1 = entry.1)
        (pattern.bind pieces) texts := hall.imp fun _ _ hentry => by
      obtain ⟨text, -, rfl⟩ := Option.map_eq_some_iff.1 hentry
      rfl
    have hmaps := List.forall₂_map_left_iff.2 (List.forall₂_map_right_iff.2 hentries)
    rw [List.forall₂_eq_eq_eq] at hmaps
    exact hmaps.symm
  ext text
  rw [Keyed.get?_ofList (hkeys ▸ hbound)]
  simp only [parameterText?, Option.bind_eq_some_iff, find?_key_eq_some_iff hbound]
  constructor
  · intro hmem
    obtain ⟨bound, htaken, hdecode⟩ := exists_left_of_forall₂ hall _ hmem
    obtain ⟨text', htext, heq⟩ := Option.map_eq_some_iff.1 hdecode
    cases heq
    exact ⟨bound, ⟨htaken, rfl⟩, htext⟩
  · rintro ⟨bound, ⟨hmem, rfl⟩, htext⟩
    obtain ⟨entry, hentry, hdecode⟩ := exists_right_of_forall₂ hall _ hmem
    obtain ⟨text', htext', rfl⟩ := Option.map_eq_some_iff.1 hdecode
    rw [pieceText?] at htext
    rw [htext] at htext'
    cases htext'
    exact hentry

theorem isSome_parameterText? {name : String} (hfits : Fits pattern pieces)
    (hname : name ∈ pattern.names) (htext : TextOnly pattern pieces) :
    (parameterText? pattern pieces name).isSome := by
  obtain ⟨piece, hpiece⟩ := hfits.exists_mem_bind hname
  unfold parameterText?
  cases hfind : (pattern.bind pieces).find? (·.1 == name) with
  | none => simpa using List.find?_eq_none.1 hfind _ hpiece
  | some bound => exact htext bound (List.mem_of_find?_eq_some hfind)

/-! ## Routes -/

/-- The route that a request takes among the sites, with the pieces of its path. -/
def matchedRoute? (sites : List Site) (table : Table) (request : Request) :
    Option (Route × List String) :=
  match siteFor? sites request.path with
  | some (.declared path, pieces) =>
    (routeFor? (table.forPath path) request.method).map (·, pieces)
  | _ => none

variable {s : Service} {sites : List Site} {table : Table} {world : World} {request : Request}
  {route : Route}

/-- The site that is found fits the path, and no site that fits the path goes before it. -/
theorem siteFor?_eq_some {path : String} {site : Site}
    (h : siteFor? sites path = some (site, pieces)) :
    Routing.pieces? path = some pieces ∧ site ∈ sites ∧ Fits (Pattern.ofPath site.path) pieces ∧
      ∀ other ∈ sites, Fits (Pattern.ofPath other.path) pieces →
        ¬ (Pattern.ofPath other.path).Precedes (Pattern.ofPath site.path) := by
  simp only [siteFor?, Option.bind_eq_bind, Option.bind_eq_some_iff, Option.pure_def,
    Option.some.injEq, Prod.mk.injEq] at h
  obtain ⟨pieces', hpieces, site', hselect, rfl, rfl⟩ := h
  obtain ⟨pattern, hmem, hfits, hleast⟩ := Routing.select?_least hselect
  obtain ⟨site'', hsite, heq⟩ := List.mem_map.1 hmem
  cases heq
  exact ⟨hpieces, hsite, hfits, fun other hother => hleast _ other (List.mem_map_of_mem hother)⟩

theorem routeFor?_eq_some {routes : List Route} {method : Http.Method}
    (h : routeFor? routes method = some route) :
    route ∈ routes ∧ (route.method = method ∨ method = .head ∧ route.method = .get) := by
  rcases Option.or_eq_some_iff.1 h with h | ⟨-, h⟩
  · exact ⟨List.mem_of_find?_eq_some h, .inl (by simpa using List.find?_some h)⟩
  · split at h
    · rename_i hhead
      exact ⟨List.mem_of_find?_eq_some h, .inr ⟨hhead, by simpa using List.find?_some h⟩⟩
    · cases h

theorem matchedRoute?_eq_some (h : matchedRoute? sites table request = some (route, pieces)) :
    siteFor? sites request.path = some (.declared route.path, pieces) ∧
      routeFor? (table.forPath route.path) request.method = some route := by
  unfold matchedRoute? at h
  split at h
  · rename_i path pieces' hsite
    obtain ⟨route', hroute, heq⟩ := Option.map_eq_some_iff.1 h
    cases heq
    have hpath : route.path = path := by
      simpa using (List.mem_filter.1 (routeFor?_eq_some hroute).1).2
    exact ⟨hpath ▸ hsite, hpath ▸ hroute⟩
  · cases h

theorem mem_routes_of_matched (h : matchedRoute? sites table request = some (route, pieces)) :
    route ∈ table.routes :=
  (List.mem_filter.1 (routeFor?_eq_some (matchedRoute?_eq_some h).2).1).1

/-- A route is declared for the path and the method of a request, where `GET` stands for `HEAD` as
well. -/
structure DeclaredFor (route : Route) (request : Request) (pieces : List String) : Prop where
  path : Routing.pieces? request.path = some pieces
  fits : Fits (Pattern.ofPath route.path) pieces
  method : route.method = request.method ∨ request.method = .head ∧ route.method = .get

theorem declaredFor_of_matched (h : matchedRoute? sites table request = some (route, pieces)) :
    DeclaredFor route request pieces := by
  obtain ⟨hsite, hroute⟩ := matchedRoute?_eq_some h
  obtain ⟨hpath, -, hfits, -⟩ := siteFor?_eq_some hsite
  exact ⟨hpath, hfits, (routeFor?_eq_some hroute).2⟩

/-! ## Routers -/

/-- What comes of a request by the route that it takes. -/
def serveMatched (s : Service) (world : World) (request : Request) (route : Route)
    (pieces : List String) : Exchange :=
  serveRoute s world.indices route request (pathParameters (Pattern.ofPath route.path) pieces)

theorem call_console {files : Files} {page : Console.Page} {parameters : Option (Keyed String)} :
    (Console.serve files page request parameters).call = none := by
  cases page with
  | door | index => rfl
  | file =>
      simp only [Console.serve]
      split
      · rfl
      · split <;> rfl

/-- A site without a route for a request does not call the handler, whichever it is. -/
theorem serveAt_of_unmatched (world : World) {site : Site}
    (hsite : siteFor? sites request.path = some (site, pieces))
    (h : matchedRoute? sites table request = none) :
    (serveAt s table world site pieces request).call = none ∧
      ∀ handler, serveAt { s with handler } table world site pieces request =
        serveAt s table world site pieces request := by
  simp only [matchedRoute?, hsite] at h
  cases site with
  | declared path =>
      have hroute : routeFor? (table.forPath path) request.method = none :=
        Option.map_eq_none_iff.1 h
      simp only [serveAt, serveSite?, hroute, Option.map_none]
      exact ⟨rfl, fun _ => trivial⟩
  | page page =>
      refine ⟨?_, fun _ => rfl⟩
      simp only [serveAt, serveSite?]
      split_ifs
      · exact call_console
      · rfl
  | metrics =>
      refine ⟨?_, fun _ => rfl⟩
      simp only [serveAt, serveSite?]
      split_ifs <;> rfl

/-- A router like this one before another handler. -/
def Router.withHandler (r : Router) (handler : Handler) : Router :=
  { r with service := { r.service with handler } }

@[simp] theorem status_asSent {method : Http.Method} {response : Http.Response} :
    (asSent method response).status = response.status := by
  unfold asSent Http.Response.withLength
  split_ifs <;> rfl

theorem Router.serve_of_matched {r : Router} (world : World)
    (h : matchedRoute? (tableSites r.table) r.table request = some (route, pieces)) :
    r.serve world request =
      (serveMatched r.service world request route pieces).mapResponse (asSent request.method) := by
  obtain ⟨hsite, hroute⟩ := matchedRoute?_eq_some h
  simp only [Router.serve, hsite, serveAt, serveSite?, hroute, Option.map_some]
  rfl

theorem Router.serve_of_unmatched {r : Router}
    (h : matchedRoute? (tableSites r.table) r.table request = none) :
    (r.serve world request).call = none ∧
      ∀ handler, (r.withHandler handler).serve world request = r.serve world request := by
  cases hsite : siteFor? (tableSites r.table) request.path with
  | none =>
      simp only [Router.serve, Router.withHandler, hsite]
      exact ⟨rfl, fun _ => trivial⟩
  | some found =>
      obtain ⟨hcall, hsame⟩ := serveAt_of_unmatched (s := r.service) world hsite h
      simp only [Router.serve, Router.withHandler, hsite]
      exact ⟨hcall, fun handler => congrArg _ (hsame handler)⟩

theorem Router.matched_of_call {r : Router} {q : OperationRequest}
    (h : (r.serve world request).call = some q) :
    ∃ route pieces, matchedRoute? (tableSites r.table) r.table request = some (route, pieces) ∧
      (serveMatched r.service world request route pieces).call = some q := by
  cases hmatched : matchedRoute? (tableSites r.table) r.table request with
  | none =>
      rw [(Router.serve_of_unmatched hmatched).1] at h
      cases h
  | some matched =>
      obtain ⟨route, pieces⟩ := matched
      rw [Router.serve_of_matched world hmatched] at h
      exact ⟨route, pieces, rfl, h⟩

/-- What a router answers depends on the handler only through the answer to the call. -/
theorem Router.serve_withHandler {r : Router} {handler : Handler}
    (h : ∀ q, (r.serve world request).call = some q → handler q = r.service.handler q) :
    (r.withHandler handler).serve world request = r.serve world request := by
  cases hmatched : matchedRoute? (tableSites r.table) r.table request with
  | none => exact (Router.serve_of_unmatched hmatched).2 handler
  | some matched =>
      obtain ⟨route, pieces⟩ := matched
      have hserve := Router.serve_of_matched world hmatched
      have hserve' := Router.serve_of_matched (r := r.withHandler handler) world hmatched
      rw [hserve] at h
      rw [hserve, hserve']
      exact congrArg _ (passStages_congr_handler h)

/-! ## Servers -/

namespace Server

/-- The route that a server has for a request. No route serves the questions of a browser. -/
def matchedRoute? (s : Server) (request : Request) : Option (Route × List String) :=
  if request.method = .options then none
  else Gateway.matchedRoute? s.sites s.router.table request

variable {s : Server}

@[simp] theorem status_stamp {origins : Http.OriginPolicy} {response : Http.Response} :
    (origins.stamp request response).status = response.status := rfl

theorem stamp_congr {origins : Http.OriginPolicy} {request' : Request}
    (h : request'.headers = request.headers) : origins.stamp request' = origins.stamp request := by
  funext response
  simp only [Http.OriginPolicy.stamp, Http.OriginPolicy.sharedHeaders,
    Http.OriginPolicy.originHeader, h]

theorem matchedRoute?_eq_some (h : s.matchedRoute? request = some (route, pieces)) :
    request.method ≠ .options ∧
      Gateway.matchedRoute? s.sites s.router.table request = some (route, pieces) := by
  unfold matchedRoute? at h
  split at h
  · cases h
  · rename_i hmethod
    exact ⟨hmethod, h⟩

theorem matchedRoute?_congr {request' : Request} (hmethod : request'.method = request.method)
    (hpath : request'.path = request.path) :
    s.matchedRoute? request' = s.matchedRoute? request := by
  simp only [matchedRoute?, Gateway.matchedRoute?, hmethod, hpath]

theorem route_of_matched (world : World) (h : s.matchedRoute? request = some (route, pieces)) :
    s.route world request = serveMatched s.router.service world request route pieces := by
  obtain ⟨-, h⟩ := matchedRoute?_eq_some h
  obtain ⟨hsite, hroute⟩ := Gateway.matchedRoute?_eq_some h
  simp only [Server.route, hsite, serveAt, serveSite?, hroute, Option.map_some]
  rfl

theorem exchange_of_method (hmethod : request.method ≠ .options) :
    s.exchange world request =
      ((s.route world request).mapResponse (s.origins.stamp request)).mapResponse
        (asSent request.method) := by
  simp only [exchange, hmethod, if_false]

theorem exchange_of_matched (world : World) (h : s.matchedRoute? request = some (route, pieces)) :
    s.exchange world request =
      ((serveMatched s.router.service world request route pieces).mapResponse
        (s.origins.stamp request)).mapResponse (asSent request.method) := by
  rw [exchange_of_method (matchedRoute?_eq_some h).1, route_of_matched world h]

theorem call_serve : (s.serve world request).call = (s.exchange world request).call := by
  simp only [serve]
  split <;> rfl

/-- The deadline is about calls of the handler only. -/
theorem serve_of_call_eq_none (h : (s.exchange world request).call = none) :
    s.serve world request = (s.exchange world request).finish := by
  have hexpires : s.expires (s.exchange world request) = false := by
    unfold expires
    split <;> simp [h]
  simp [serve, hexpires]

theorem serve_of_route (hmethod : request.method ≠ .options)
    (hcall : (s.route world request).call = none) :
    s.serve world request = ((s.route world request).mapResponse fun response =>
      asSent request.method (s.origins.stamp request response)).finish := by
  have hexchange : s.exchange world request = _ := exchange_of_method hmethod
  rw [serve_of_call_eq_none (by rw [hexchange]; exact hcall), hexchange]
  rfl

/-- A run either ends before the deadline or with the answer that the deadline gives. -/
theorem serve_of_finished (h : (s.serve world request).finished = true) :
    s.serve world request = (s.exchange world request).finish := by
  cases hexpires : s.expires (s.exchange world request) with
  | true => simp [serve, hexpires] at h
  | false => simp [serve, hexpires]

theorem response_of_unfinished (h : (s.serve world request).finished = false) :
    (s.serve world request).response = asSent request.method (.ofStatus 408) := by
  cases hexpires : s.expires (s.exchange world request) with
  | true => simp [serve, hexpires]
  | false => simp [serve, hexpires, Exchange.finish] at h

theorem serve_of_answered (world : World) {response : Http.Response} {events : List Event}
    (h : s.matchedRoute? request = some (route, pieces))
    (hanswered : serveMatched s.router.service world request route pieces =
      .answered response events) :
    s.serve world request =
      { response := asSent request.method (s.origins.stamp request response)
        events
        call := none
        finished := true } := by
  have hexchange := exchange_of_matched world h
  rw [hanswered] at hexchange
  have hcall : (s.exchange world request).call = none := by
    rw [hexchange]
    rfl
  rw [serve_of_call_eq_none hcall, hexchange]
  simp [Exchange.finish, Exchange.mapResponse, Exchange.answered]

theorem call_serve_of_matched (world : World) (h : s.matchedRoute? request = some (route, pieces)) :
    (s.serve world request).call =
      (serveMatched s.router.service world request route pieces).call := by
  rw [call_serve, exchange_of_matched world h]
  rfl

theorem status_serve_of_matched {world : World}
    (h : s.matchedRoute? request = some (route, pieces))
    (hcall : (serveMatched s.router.service world request route pieces).call = none) :
    (s.serve world request).response.status =
      (serveMatched s.router.service world request route pieces).response.status := by
  have hexchange := exchange_of_matched world h
  rw [serve_of_call_eq_none (by rw [hexchange]; exact hcall), hexchange]
  simp only [Exchange.finish, Exchange.mapResponse, status_asSent, status_stamp]

end Server

end SearchGateway.Gateway
