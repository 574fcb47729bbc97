import SearchGateway.Proofs.Routing.Table

/-!
# What building makes of declarations

A table is built exactly if no method and path is declared twice, and the first route that repeats
an earlier one is reported otherwise. The table keeps the declarations in their order, and the
stages of every route follow from the kind of its declaration (`Table.build_keeps`).
-/

namespace SearchGateway.Routing

open Http (Method)
open Security (Operation)

variable {seen : List (Method × String)} {routes before after : List Route} {r : Route}
  {declarations : List Declaration} {d : Declaration} {table : Table}

/-! ## The first repetition -/

theorem firstRepeat?_eq_none_iff :
    firstRepeat? seen routes = none ↔
      (routes.map Route.key).Nodup ∧ ∀ r ∈ routes, r.key ∉ seen := by
  refine ⟨nodup_of_firstRepeat?_eq_none, ?_⟩
  rintro ⟨hnodup, hseen⟩
  induction routes generalizing seen with
  | nil => rfl
  | cons r routes ih =>
      obtain ⟨hr, hroutes⟩ := List.nodup_cons.1 hnodup
      rw [firstRepeat?, if_neg (hseen r List.mem_cons_self)]
      refine ih hroutes fun x hx hmem => ?_
      rcases List.mem_cons.1 hmem with hkey | hmem
      · exact hr (hkey ▸ List.mem_map_of_mem hx)
      · exact hseen x (List.mem_cons_of_mem _ hx) hmem

theorem firstRepeat?_append (h : firstRepeat? seen before = none) :
    firstRepeat? seen (before ++ after) =
      firstRepeat? ((before.map Route.key).reverse ++ seen) after := by
  induction before generalizing seen with
  | nil => rfl
  | cons r before ih =>
      rw [firstRepeat?] at h
      split at h
      · cases h
      · rename_i hr
        rw [List.cons_append, firstRepeat?, if_neg hr, ih h]
        simp

theorem firstRepeat?_eq_some (h : firstRepeat? seen routes = some r) :
    ∃ before after, routes = before ++ r :: after ∧ firstRepeat? seen before = none ∧
      (r.key ∈ before.map Route.key ∨ r.key ∈ seen) := by
  induction routes generalizing seen with
  | nil => cases h
  | cons x routes ih =>
      rw [firstRepeat?] at h
      split at h
      · rename_i hx
        cases h
        exact ⟨[], routes, rfl, rfl, .inr hx⟩
      · rename_i hx
        obtain ⟨before, after, rfl, hnone, hr⟩ := ih h
        refine ⟨x :: before, after, rfl, by rw [firstRepeat?, if_neg hx, hnone], ?_⟩
        simp only [List.mem_cons] at hr
        simp only [List.map_cons, List.mem_cons]
        tauto

/-! ## Keys -/

/-- The methods and paths that are declared, in order. -/
def declaredKeys (declarations : List Declaration) : List (Method × String) :=
  declarations.flatMap fun d => d.methods.map (·, d.surface.start ++ d.path)

theorem map_key_routes :
    (declarations.flatMap Declaration.routes).map Route.key = declaredKeys declarations := by
  simp only [declaredKeys, List.map_flatMap, Declaration.routes, List.map_map]
  rfl

theorem exists_build_iff :
    (∃ table, Table.build declarations = .ok table) ↔ (declaredKeys declarations).Nodup := by
  rw [← map_key_routes]
  constructor
  · rintro ⟨table, h⟩
    rw [← Table.routes_of_build h]
    exact table.distinct
  · intro h
    exact ⟨_, Table.build_of_firstRepeat? (firstRepeat?_eq_none_iff.2 ⟨h, by simp⟩)⟩

/-- The first key that repeats an earlier one. -/
def FirstRepetition (keys : List (Method × String)) (key : Method × String) : Prop :=
  ∃ before after, keys = before ++ key :: after ∧ before.Nodup ∧ key ∈ before

theorem build_eq_error_iff {e : DuplicateRoute} :
    Table.build declarations = .error e ↔
      FirstRepetition (declaredKeys declarations) (e.method, e.path) := by
  rw [← map_key_routes]
  constructor
  · intro h
    simp only [Table.build] at h
    split at h
    · rename_i r hr
      cases h
      obtain ⟨before, after, hroutes, hnone, hmem⟩ := firstRepeat?_eq_some hr
      refine ⟨before.map Route.key, after.map Route.key, by rw [hroutes]; simp [Route.key], ?_, ?_⟩
      · exact (firstRepeat?_eq_none_iff.1 hnone).1
      · exact hmem.resolve_right List.not_mem_nil
    · cases h
  · rintro ⟨before, after, hkeys, hnodup, hmem⟩
    obtain ⟨before, rest, hroutes, rfl, hrest⟩ := List.map_eq_append_iff.1 hkeys
    obtain ⟨r, after, rfl, hr, rfl⟩ := List.map_eq_cons_iff.1 hrest
    have hfirst : firstRepeat? [] (declarations.flatMap Declaration.routes) = some r := by
      rw [hroutes, firstRepeat?_append (firstRepeat?_eq_none_iff.2 ⟨hnodup, by simp⟩), firstRepeat?,
        if_pos (by simpa [hr] using hmem)]
    simp only [Table.build]
    split
    · rename_i r' hr'
      rw [hfirst] at hr'
      cases hr'
      cases e
      cases hr
      rfl
    · rename_i hnone
      rw [hfirst] at hnone
      cases hnone

/-! ## Routes -/

/-- A route is one of those that a declaration asks for. -/
structure Declares (d : Declaration) (r : Route) : Prop where
  method : r.method ∈ d.methods
  path : r.path = d.surface.start ++ d.path
  access : r.access = d.access
  endpoint : r.endpoint = d.endpoint

theorem mem_routes_iff : r ∈ d.routes ↔ Declares d r := by
  constructor
  · intro h
    obtain ⟨method, hmethod, rfl⟩ := List.mem_map.1 h
    exact ⟨hmethod, rfl, rfl, rfl⟩
  · rintro ⟨hmethod, hpath, haccess, hendpoint⟩
    refine List.mem_map.2 ⟨r.method, hmethod, ?_⟩
    rw [← hpath, ← haccess, ← hendpoint]

/-! ## Stages -/

namespace Declaration

/-- The operation that callers of a declaration's routes need a permission for. -/
def operation? : Declaration → Option Operation
  | .anyone _ _ _ _ => none
  | .permitted _ _ _ operation _ => some operation
  | .resolving _ _ operation _ _ => some operation

/-- The policy by which a declaration's targets are resolved. -/
def policy? : Declaration → Option Registry.Policy
  | .anyone _ _ _ _ => none
  | .permitted _ _ _ _ _ => none
  | .resolving _ _ _ _ policy => some policy

end Declaration

/-- Authorization comes first, the resolution of targets last, and each stage is there once if the
declaration asks for it and otherwise not at all. -/
structure StagesOf (d : Declaration) (stages : List Stage) : Prop where
  authorization : ∀ operation, d.operation? = some operation →
    ∃ rest, stages = .authorization operation :: rest ∧ ∀ other, .authorization other ∉ rest
  unauthorized : d.operation? = none → ∀ operation, .authorization operation ∉ stages
  conventions : stages.count .conventions = if d.surface = .elastic then 1 else 0
  targets : ∀ policy, d.policy? = some policy →
    ∃ front, stages = front ++ [.targets policy] ∧ ∀ other, .targets other ∉ front
  untargeted : d.policy? = none → ∀ policy, .targets policy ∉ stages

theorem Declaration.stages_access (d : Declaration) : d.access.stages =
    (d.operation?.map Stage.authorization).toList ++
      (if d.surface = .elastic then [.conventions] else []) ++
      (d.policy?.map Stage.targets).toList := by
  cases d with
  | anyone surface methods path endpoint => cases surface <;> rfl
  | permitted surface methods path operation action => cases surface <;> rfl
  | resolving methods path operation action policy => rfl

theorem stagesOf_access (d : Declaration) : StagesOf d d.access.stages := by
  rw [d.stages_access]
  constructor
  · intro operation h
    refine ⟨_, by rw [h]; rfl, fun other => ?_⟩
    split <;> simp
  · intro h operation
    rw [h]
    split <;> simp
  · have hoperation : (d.operation?.map Stage.authorization).toList.count .conventions = 0 := by
      simp [List.count_eq_zero]
    have hpolicy : (d.policy?.map Stage.targets).toList.count .conventions = 0 := by
      simp [List.count_eq_zero]
    rw [List.count_append, List.count_append, hoperation, hpolicy]
    split <;> rfl
  · intro policy h
    refine ⟨_, by rw [h]; rfl, fun other => ?_⟩
    split <;> simp
  · intro h policy
    rw [h]
    split <;> simp

/-! ## Tables -/

theorem find?_eq_some_iff_of_build (h : Table.build declarations = .ok table) {method : Method}
    {path : String} :
    table.find? method path = some r ↔
      ∃ d ∈ declarations, Declares d r ∧ r.method = method ∧ r.path = path := by
  rw [Table.find?_eq_some_iff, Table.routes_of_build h, List.mem_flatMap]
  simp only [mem_routes_iff]
  constructor
  · rintro ⟨⟨d, hd, hr⟩, hmethod, hpath⟩
    exact ⟨d, hd, hr, hmethod, hpath⟩
  · rintro ⟨d, hd, hr, hmethod, hpath⟩
    exact ⟨⟨d, hd, hr⟩, hmethod, hpath⟩

/-- Building succeeds exactly if no method and path is declared twice, wherever the declarations
stand, and reports the first repetition otherwise. A table that is built has the declared methods
and paths in order, a look-up finds the route that is declared for a method and a path and no other,
and the stages of each route are those its declaration asks for. -/
theorem Table.build_keeps (declarations : List Declaration) :
    ((∃ table, Table.build declarations = .ok table) ↔ (declaredKeys declarations).Nodup) ∧
    (∀ e, Table.build declarations = .error e ↔
      FirstRepetition (declaredKeys declarations) (e.method, e.path)) ∧
    (∀ table, Table.build declarations = .ok table →
      table.routes.map Route.key = declaredKeys declarations ∧
      (∀ method path r, table.find? method path = some r ↔
        ∃ d ∈ declarations, Declares d r ∧ r.method = method ∧ r.path = path) ∧
      ∀ r ∈ table.routes, ∃ d ∈ declarations, Declares d r ∧ StagesOf d r.access.stages) := by
  refine ⟨exists_build_iff, fun e => build_eq_error_iff, fun table h => ⟨?_, ?_, ?_⟩⟩
  · rw [Table.routes_of_build h, map_key_routes]
  · intro method path r
    exact find?_eq_some_iff_of_build h
  · intro r hr
    obtain ⟨d, hd, hmem⟩ := Table.exists_declaration h hr
    have hdeclares := mem_routes_iff.1 hmem
    exact ⟨d, hd, hdeclares, hdeclares.access ▸ stagesOf_access d⟩

/-- A path that is spelled out at the root meets the same path below a surface. -/
example : Table.build [
      .anyone .root [.get, .head] "/api/user" .health,
      .permitted .native [.post, .get] "/user" .authListUser .authListUser] =
    .error ⟨.get, "/api/user"⟩ := by
  cbv

end SearchGateway.Routing
