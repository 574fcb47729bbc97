import SearchGateway.Routing.Route

/-!
# Route tables

Routes are declared surface by surface, several methods at a time. A table holds them in the order
of their declaration, and no method and path twice.
-/

namespace SearchGateway.Routing

open Http (Method)
open Security (Operation)

/-- Where a route is declared. -/
inductive Surface where
  | root
  | native
  | elastic
deriving DecidableEq, Repr

namespace Surface

/-- What the paths of a surface begin with. -/
def start : Surface → String
  | .root => ""
  | .native => "/api"
  | .elastic => "/es"

def dialect : Surface → Dialect
  | .root => .native
  | .native => .native
  | .elastic => .elastic

end Surface

/-- Routes of one path. Only the Elasticsearch surface declares routes that resolve targets. -/
inductive Declaration where
  | anyone (surface : Surface) (methods : List Method) (path : String) (endpoint : Endpoint)
  | permitted (surface : Surface) (methods : List Method) (path : String)
      (operation : Operation) (action : Action)
  | resolving (methods : List Method) (path : String) (operation : Operation) (action : Action)
      (policy : Registry.Policy)
deriving DecidableEq, Repr

namespace Declaration

def surface : Declaration → Surface
  | .anyone surface _ _ _ => surface
  | .permitted surface _ _ _ _ => surface
  | .resolving _ _ _ _ _ => .elastic

def methods : Declaration → List Method
  | .anyone _ methods _ _ => methods
  | .permitted _ methods _ _ _ => methods
  | .resolving methods _ _ _ _ => methods

/-- The path of a declaration below its surface. -/
def path : Declaration → String
  | .anyone _ _ path _ => path
  | .permitted _ _ path _ _ => path
  | .resolving _ path _ _ _ => path

def access : Declaration → Access
  | .anyone surface _ _ _ => .anyone surface.dialect
  | .permitted surface _ _ operation _ => .permitted surface.dialect operation
  | .resolving _ _ operation _ policy => .resolving operation policy

def endpoint : Declaration → Endpoint
  | .anyone _ _ _ endpoint => endpoint
  | .permitted _ _ _ _ action => .handler action
  | .resolving _ _ _ action _ => .handler action

/-- The routes of a declaration, one for each method. -/
def routes (d : Declaration) : List Route :=
  d.methods.map fun method => ⟨method, d.surface.start ++ d.path, d.access, d.endpoint⟩

end Declaration

/-- The first route whose key has been seen before. -/
def firstRepeat? (seen : List (Method × String)) : List Route → Option Route
  | [] => none
  | r :: rest => if r.key ∈ seen then some r else firstRepeat? (r.key :: seen) rest

theorem nodup_of_firstRepeat?_eq_none {seen : List (Method × String)} {routes : List Route}
    (h : firstRepeat? seen routes = none) :
    (routes.map Route.key).Nodup ∧ ∀ r ∈ routes, r.key ∉ seen := by
  induction routes generalizing seen with
  | nil => simp
  | cons r rest ih =>
    unfold firstRepeat? at h
    split at h
    · cases h
    · rename_i hr
      obtain ⟨hrest, hseen⟩ := ih h
      refine ⟨List.nodup_cons.2 ⟨fun hmem => ?_, hrest⟩, fun x hx => ?_⟩
      · obtain ⟨x, hx, hkey⟩ := List.mem_map.1 hmem
        exact hseen x hx (hkey ▸ List.mem_cons_self)
      · rcases List.mem_cons.1 hx with rfl | hx
        · exact hr
        · exact fun hmem => hseen x hx (List.mem_cons_of_mem _ hmem)

/-- Routes in the order of their declaration. -/
structure Table where
  routes : List Route
  distinct : (routes.map Route.key).Nodup

/-- A route that repeats the method and the path of an earlier one. -/
structure DuplicateRoute where
  method : Method
  path : String
deriving DecidableEq, Repr

def DuplicateRoute.message (e : DuplicateRoute) : String :=
  s!"Duplicate route: {e.method.name} {e.path}"

namespace Table

/-- The table of the declarations, unless a method and a path are declared twice. -/
def build (declarations : List Declaration) : Except DuplicateRoute Table :=
  let routes := declarations.flatMap Declaration.routes
  match h : firstRepeat? [] routes with
  | some r => .error ⟨r.method, r.path⟩
  | none => .ok ⟨routes, (nodup_of_firstRepeat?_eq_none h).1⟩

/-- The route declared for a method and a path. -/
def find? (t : Table) (method : Method) (path : String) : Option Route :=
  t.routes.find? fun r => r.method = method ∧ r.path = path

/-- The routes declared for a path, in order. -/
def forPath (t : Table) (path : String) : List Route :=
  t.routes.filter (·.path = path)

def paths (t : Table) : List String :=
  (t.routes.map (·.path)).eraseDups

end Table

end SearchGateway.Routing
