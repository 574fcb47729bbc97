import SearchGateway.Routing.Standard
import Mathlib.Data.List.Nodup

/-!
# Tables of declared routes

A table holds the routes of its declarations and nothing else. A declaration that asks for an
operation ends in a call of the handler.
-/

namespace SearchGateway.Routing

variable {declarations : List Declaration} {declaration : Declaration} {route : Route}
  {table : Table}

/-! ## Tokens -/

theorem Action.ofToken?_token (action : Action) : ofToken? action.token = some action := by
  cases action <;> rfl

theorem Action.token_injective {action action' : Action} (h : action.token = action'.token) :
    action = action' := by
  have hsame := ofToken?_token action
  rw [h, ofToken?_token action'] at hsame
  exact (Option.some.inj hsame).symm

theorem Dialect.token_injective {dialect dialect' : Dialect}
    (h : dialect.token = dialect'.token) : dialect = dialect' := by
  cases dialect <;> cases dialect' <;> simp_all [token]

/-! ## Building -/

theorem Table.build_of_firstRepeat?
    (h : firstRepeat? [] (declarations.flatMap Declaration.routes) = none) :
    Table.build declarations =
      .ok ⟨declarations.flatMap Declaration.routes, (nodup_of_firstRepeat?_eq_none h).1⟩ := by
  simp only [Table.build]
  split
  · rename_i r hr
    rw [h] at hr
    cases hr
  · rfl

theorem Table.routes_of_build (h : Table.build declarations = .ok table) :
    table.routes = declarations.flatMap Declaration.routes := by
  simp only [Table.build] at h
  split at h
  · cases h
  · cases h
    rfl

theorem Table.exists_declaration (h : Table.build declarations = .ok table)
    (hroute : route ∈ table.routes) : ∃ declaration ∈ declarations, route ∈ declaration.routes := by
  rw [Table.routes_of_build h] at hroute
  exact List.mem_flatMap.1 hroute

/-! ## Look-ups -/

/-- The route for a method and a path is the only one that is declared for them. -/
theorem Table.find?_eq_some_iff {method : Http.Method} {path : String} :
    table.find? method path = some route ↔
      route ∈ table.routes ∧ route.method = method ∧ route.path = path := by
  unfold Table.find?
  constructor
  · intro h
    exact ⟨List.mem_of_find?_eq_some h, by simpa using List.find?_some h⟩
  · rintro ⟨hmem, hmethod, hpath⟩
    cases hfind : table.routes.find? fun r => r.method = method ∧ r.path = path with
    | none => simpa [hmethod, hpath] using List.find?_eq_none.1 hfind route hmem
    | some other =>
        have hother : other.method = method ∧ other.path = path := by
          simpa using List.find?_some hfind
        have hkey : other.key = route.key := by
          simp only [Route.key, hother.1, hother.2, hmethod, hpath]
        rw [List.inj_on_of_nodup_map table.distinct (List.mem_of_find?_eq_some hfind) hmem hkey]

theorem Table.find?_forPath {method : Http.Method} {path : String} :
    (table.forPath path).find? (·.method = method) = table.find? method path := by
  unfold Table.forPath Table.find?
  rw [List.find?_filter]
  simp only [decide_eq_true_eq, and_comm]

/-! ## Declarations -/

theorem Declaration.mem_routes (h : route ∈ declaration.routes) :
    route.access = declaration.access ∧ route.endpoint = declaration.endpoint := by
  obtain ⟨method, -, rfl⟩ := List.mem_map.1 h
  exact ⟨rfl, rfl⟩

/-- Only the handler serves what callers need a permission for. -/
theorem Declaration.endpoint_of_operation? {operation : Security.Operation}
    (h : declaration.access.operation? = some operation) :
    ∃ action, declaration.endpoint = .handler action := by
  cases declaration with
  | anyone surface methods path endpoint => cases h
  | permitted surface methods path operation' action => exact ⟨action, rfl⟩
  | resolving methods path operation' action policy => exact ⟨action, rfl⟩

theorem Table.endpoint_of_operation? {operation : Security.Operation}
    (h : Table.build declarations = .ok table) (hroute : route ∈ table.routes)
    (hoperation : route.access.operation? = some operation) :
    ∃ action, route.endpoint = .handler action := by
  obtain ⟨declaration, -, hmem⟩ := Table.exists_declaration h hroute
  obtain ⟨haccess, hendpoint⟩ := Declaration.mem_routes hmem
  rw [haccess] at hoperation
  rw [hendpoint]
  exact Declaration.endpoint_of_operation? hoperation

/-! ## The standard table -/

theorem firstRepeat?_standardRoutes :
    firstRepeat? [] (standardRoutes.flatMap Declaration.routes) = none := by
  decide +kernel

/-- The table of every route of the gateway. -/
def gatewayTable : Table :=
  ⟨standardRoutes.flatMap Declaration.routes,
    (nodup_of_firstRepeat?_eq_none firstRepeat?_standardRoutes).1⟩

theorem Table.standard_eq_ok : Table.standard = .ok gatewayTable :=
  Table.build_of_firstRepeat? firstRepeat?_standardRoutes

end SearchGateway.Routing
