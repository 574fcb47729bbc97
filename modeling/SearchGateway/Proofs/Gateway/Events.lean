import SearchGateway.Proofs.Gateway.Handover

/-!
# What stages count

A stage counts an event for a request that it does not let pass, and for a target that it resolves.
Which events a request causes on its route is therefore a question of the stages that it comes to
(`mem_events_passStages`), and the one it ends with is the only one of its kind
(`length_final_passStages_le`).
-/

namespace SearchGateway.Gateway

open Routing (Dialect Endpoint Route Stage)

variable {s : Service} {indices : Registry.Snapshot} {route : Route} {endpoint : Endpoint}
  {stage : Stage} {stages : List Stage} {p q : Passage} {request : Http.Request}
  {parameters : Option (Keyed String)} {dialect : Dialect} {e : Event}

/-- The stage that counts an event. -/
def Event.stage? : Event → Option Stage
  | .denied operation _ => some (.authorization operation)
  | .refused _ => some .conventions
  | .target policy _ => some (.targets policy)
  | .dispatched _ _ _ => none
  | .unmatched _ => none

theorem stage?_of_noted? (h : noted? s indices endpoint request parameters stage = some e) :
    e.stage? = some stage := by
  cases stage with
  | authorization operation | conventions =>
      simp only [noted?] at h
      split at h <;> cases h
      rfl
  | targets policy =>
      obtain ⟨expression, -, rfl⟩ := Option.map_eq_some_iff.1 h
      rfl

theorem Keeps.noted?_eq (h : Keeps s p q) :
    noted? s indices endpoint q.request q.parameters stage =
      noted? s indices endpoint p.request p.parameters stage := by
  cases stage with
  | authorization operation => simp only [noted?, h.headers]
  | conventions => simp only [noted?, keepConventions_congr h.headers h.query h.body]
  | targets policy => simp only [noted?, h.parameters]

theorem events_passStages_cons :
    (passStages s indices route (stage :: stages) p).events =
      (noted? s indices route.endpoint p.request p.parameters stage).toList ++
        match handOn? s indices route.endpoint p stage with
        | some q => (passStages s indices route stages q).events
        | none => [] := by
  rw [passStages_cons, handOn?_eq]
  cases tryStage s indices route.endpoint p stage with
  | ok q => rfl
  | error failure => exact (List.append_nil _).symm

@[simp] theorem events_serveEndpoint :
    (serveEndpoint s dialect endpoint p).events = [] := by
  cases endpoint with
  | handler action =>
      simp only [serveEndpoint, dispatch]
      split <;> rfl
  | _ => rfl

/-- A stage counts an event exactly if all stages before it let the request pass. -/
theorem mem_events_passStages :
    e ∈ (passStages s indices route stages p).events ↔
      ∃ before stage after, stages = before ++ stage :: after ∧
        (∀ earlier ∈ before, Passes s indices route.endpoint p.request p.parameters earlier) ∧
        noted? s indices route.endpoint p.request p.parameters stage = some e := by
  induction stages generalizing p with
  | nil => simp [passStages]
  | cons stage stages ih =>
      rw [events_passStages_cons, List.mem_append, Option.mem_toList]
      constructor
      · rintro (hnoted | hlater)
        · exact ⟨[], stage, stages, rfl, by simp, hnoted⟩
        · split at hlater
          · rename_i q hq
            obtain ⟨before, later, after, rfl, hbefore, hnoted⟩ := ih.1 hlater
            have hkeeps := keeps_of_handOn? hq
            refine ⟨stage :: before, later, after, rfl, List.forall_mem_cons.2 ⟨?_, ?_⟩, ?_⟩
            · exact isSome_handOn?.1 (Option.isSome_of_eq_some hq)
            · exact fun earlier hmem => hkeeps.passes_iff.1 (hbefore earlier hmem)
            · rw [← hkeeps.noted?_eq, hnoted]
          · cases hlater
      · rintro ⟨before, later, after, hstages, hbefore, hnoted⟩
        cases before with
        | nil =>
            cases hstages
            exact .inl hnoted
        | cons first before =>
            cases hstages
            obtain ⟨hfirst, hbefore⟩ := List.forall_mem_cons.1 hbefore
            obtain ⟨q, hq⟩ := Option.isSome_iff_exists.1 (isSome_handOn?.2 hfirst)
            have hkeeps := keeps_of_handOn? hq
            rw [hq]
            exact .inr (ih.2 ⟨before, later, after, rfl,
              fun earlier hmem => hkeeps.passes_iff.2 (hbefore earlier hmem),
              hkeeps.noted?_eq.trans hnoted⟩)

theorem nodup_events_passStages (hstages : stages.Nodup) :
    (passStages s indices route stages p).events.Nodup := by
  induction stages generalizing p with
  | nil => simp [passStages]
  | cons stage stages ih =>
      obtain ⟨hstage, hstages⟩ := List.nodup_cons.1 hstages
      rw [events_passStages_cons]
      refine List.nodup_append.2 ⟨?_, ?_, ?_⟩
      · cases noted? s indices route.endpoint p.request p.parameters stage <;> simp
      · split
        · exact ih hstages
        · exact List.nodup_nil
      · rintro e hnoted e' hlater rfl
        split at hlater
        · obtain ⟨before, later, after, rfl, -, hnoted'⟩ := mem_events_passStages.1 hlater
          have hsame := (stage?_of_noted? (Option.mem_toList.1 hnoted)).symm.trans
            (stage?_of_noted? hnoted')
          exact hstage (by simp [Option.some.inj hsame])
        · cases hlater

theorem completion_serveEndpoint :
    (serveEndpoint s dialect endpoint p).completion =
      (serveEndpoint s dialect endpoint p).call.map fun r =>
        .dispatched r.action dialect (serveEndpoint s dialect endpoint p).response.status := by
  cases endpoint with
  | handler action =>
      simp only [serveEndpoint, dispatch]
      split <;> rfl
  | _ => rfl

theorem completion_passStages :
    (passStages s indices route stages p).completion =
      (passStages s indices route stages p).call.map fun r =>
        .dispatched r.action route.access.dialect
          (passStages s indices route stages p).response.status := by
  induction stages generalizing p with
  | nil => exact completion_serveEndpoint
  | cons stage stages ih =>
      rw [passStages_cons]
      cases tryStage s indices route.endpoint p stage with
      | ok q => simp only [Exchange.mapResponse, status_passBack, ih]
      | error failure => rfl

/-! ## The end of a request -/

/-- Whether a request that causes an event ends with it. -/
def Event.isFinal : Event → Bool
  | .target _ .resolved => false
  | .target _ .empty => false
  | _ => true

theorem isFinal_of_passes (hpasses : Passes s indices endpoint request parameters stage)
    (h : noted? s indices endpoint request parameters stage = some e) : e.isFinal = false := by
  cases stage with
  | authorization operation =>
      obtain ⟨identity, hcheck⟩ := hpasses
      simp [noted?, hcheck] at h
  | conventions =>
      obtain ⟨kept, hkept⟩ := hpasses
      simp [noted?, hkept] at h
  | targets policy =>
      obtain ⟨expression, hexpression, rfl⟩ := Option.map_eq_some_iff.1 h
      obtain ⟨targets, hselect⟩ := hpasses expression hexpression
      rw [hselect]
      cases targets <;> rfl

/-- A request ends once, at a stage or with the answer of the handler. -/
theorem length_final_passStages_le :
    ((passStages s indices route stages p).events.filter Event.isFinal).length +
      (passStages s indices route stages p).call.toList.length ≤ 1 := by
  induction stages generalizing p with
  | nil =>
      simp only [passStages, events_serveEndpoint, List.filter_nil, List.length_nil, Nat.zero_add]
      exact Option.length_toList_le
  | cons stage stages ih =>
      rw [events_passStages_cons, call_passStages, handAllOn?_cons, Option.bind_assoc]
      cases hq : handOn? s indices route.endpoint p stage with
      | none =>
          simp only [List.append_nil, Option.bind_none, Option.toList_none, List.length_nil,
            Nat.add_zero]
          exact Nat.le_trans (List.length_filter_le _ _) Option.length_toList_le
      | some q =>
          have hpasses := isSome_handOn?.1 (Option.isSome_of_eq_some hq)
          have hnoted : (noted? s indices route.endpoint p.request p.parameters stage).toList.filter
              Event.isFinal = [] := by
            rw [List.filter_eq_nil_iff]
            intro e hmem
            simp [isFinal_of_passes hpasses (Option.mem_toList.1 hmem)]
          rw [List.filter_append, hnoted, List.nil_append, Option.bind_some, ← call_passStages]
          exact ih

end SearchGateway.Gateway
