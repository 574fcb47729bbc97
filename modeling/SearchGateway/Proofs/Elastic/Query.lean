import SearchGateway.Elastic.Query
import SearchGateway.Proofs.Outcome

/-!
# What is left of a query in normal form

For each name the last value counts, as in a query that is taken as it is sent. The parameters that
only change how a response looks are missing, and the values of `refresh` and `op_type` are in
normal form (`Query.parameters_ofPairs`). Whether a body is to be indented is decided by the last
parameter about it (`Query.pretty_ofPairs`).
-/

namespace SearchGateway.Elastic

/-- The names whose parameters are taken out or rewritten. -/
def specialNames : List String := presentationNames ++ ["refresh", "op_type"]

/-- The value that stands for an acceptable one. -/
def neutralValue (name value : String) : String :=
  if name = "refresh" then (if value = "false" then "false" else "true")
  else if name = "op_type" then Text.lowered value
  else value

/-- Parameters without what only one dialect knows. -/
def neutral (parameters : Keyed String) : Keyed String where
  entries := (parameters.filter fun name _ => name ∉ presentationNames).entries.map
    fun entry => (entry.1, neutralValue entry.1 entry.2)
  sorted := List.pairwise_map.2 (Keyed.sorted _)

/-- Whether the parameters ask for an indented body. -/
def asksPretty (parameters : Keyed String) : Bool :=
  (parameters.get? "pretty").any (· ≠ "false")

variable {parameters : Keyed String} {name value normal : String}

theorem get?_neutral :
    (neutral parameters).get? name =
      if name ∈ presentationNames then none
      else (parameters.get? name).map (neutralValue name) := by
  ext normal
  rw [Keyed.get?_eq_some_iff]
  simp only [neutral, Keyed.filter, List.mem_map, List.mem_filter, decide_eq_true_eq]
  constructor
  · rintro ⟨⟨name', value⟩, ⟨hmem, hname⟩, heq⟩
    cases heq
    simp only [hname, if_false]
    exact Option.map_eq_some_iff.2 ⟨value, Keyed.get?_eq_some_iff.2 hmem, rfl⟩
  · intro h
    split at h
    · cases h
    · rename_i hname
      obtain ⟨value, hvalue, rfl⟩ := Option.map_eq_some_iff.1 h
      exact ⟨(name, value), ⟨Keyed.get?_eq_some_iff.1 hvalue, hname⟩, rfl⟩

theorem neutral_eq_self (h : ∀ name ∈ specialNames, parameters.get? name = none) :
    neutral parameters = parameters := by
  refine Keyed.ext_get? fun name => ?_
  rw [get?_neutral]
  by_cases hspecial : name ∈ specialNames
  · simp [h name hspecial]
  · have hvalue : neutralValue name = id := by
      funext value
      simp_all [neutralValue, specialNames]
    have hname : name ∉ presentationNames := fun hmem =>
      hspecial (List.mem_append_left _ hmem)
    simp [hname, hvalue]

theorem neutral_insert_of_mem (h : name ∈ presentationNames) :
    neutral (parameters.insert name value) = neutral parameters := by
  refine Keyed.ext_get? fun other => ?_
  simp only [get?_neutral, Keyed.get?_insert]
  split
  · rfl
  · rename_i hother
    have hne : name ≠ other := fun heq => hother (heq ▸ h)
    simp [hne]

theorem neutral_insert_of_not_mem (h : name ∉ presentationNames) :
    neutral (parameters.insert name value) =
      (neutral parameters).insert name (neutralValue name value) := by
  refine Keyed.ext_get? fun other => ?_
  simp only [get?_neutral, Keyed.get?_insert]
  by_cases hother : name = other
  · subst hother
    simp [h]
  · simp [hother]

/-! ## The checks -/

theorem normalRefresh_eq_ok (h : normalRefresh value = .ok normal) :
    normal = if value = "false" then "false" else "true" := by
  unfold normalRefresh at h
  split_ifs at h with hset hunset
  · cases h
    rcases hset with rfl | rfl | rfl <;> decide
  · cases h
    simp [hunset]

theorem normalOpType_eq_ok (h : normalOpType value = .ok normal) :
    normal = Text.lowered value := by
  simp only [normalOpType] at h
  split_ifs at h
  cases h
  rfl

theorem normalValue_eq_ok (h : normalValue name value = .ok normal) :
    normal = neutralValue name value := by
  unfold normalValue at h
  split_ifs at h with hrefresh hcount hop
  · rw [normalRefresh_eq_ok h, neutralValue, if_pos hrefresh]
  · -- the counts are checked, but kept as they are
    split at h <;> cases h
    rcases hcount with rfl | rfl <;> simp [neutralValue]
  · rw [normalOpType_eq_ok h, neutralValue, if_neg hrefresh, if_pos hop]
  · cases h
    rw [neutralValue, if_neg hrefresh, if_neg hop]

namespace Query

variable {q q' : Query} {pair : String × String} {pairs : List (String × String)}

theorem parameters_add (hq : q.parameters = neutral parameters) (h : q.add pair = .ok q') :
    q'.parameters = neutral (parameters.insert pair.1 pair.2) := by
  obtain ⟨name, value⟩ := pair
  simp only [add] at h
  split at h
  · rename_i hname
    have hsame : q'.parameters = q.parameters := by
      split_ifs at h <;> cases h <;> rfl
    rw [hsame, hq, neutral_insert_of_mem hname]
  · rename_i hname
    obtain ⟨normal, hnormal, rfl⟩ := map_eq_ok_iff.1 h
    simp only [neutral_insert_of_not_mem hname, ← normalValue_eq_ok hnormal, hq]

/-- The parameters of a query that is accepted. -/
theorem parameters_ofPairs (h : ofPairs pairs = .ok q) :
    q.parameters = neutral (.ofList pairs) :=
  rel_of_foldlM (R := fun q parameters => q.parameters = neutral parameters) parameters_add rfl h

/-! ## Indentation -/

theorem pretty_add (hq : q.pretty = asksPretty parameters) (h : q.add pair = .ok q') :
    q'.pretty = asksPretty (parameters.insert pair.1 pair.2) := by
  obtain ⟨name, value⟩ := pair
  simp only [add] at h
  simp only [asksPretty, Keyed.get?_insert]
  split_ifs at h with hname hpretty
  · cases h
    simp [hpretty]
  · cases h
    simpa [asksPretty, hpretty] using hq
  · obtain ⟨normal, -, rfl⟩ := map_eq_ok_iff.1 h
    have hpretty : name ≠ "pretty" := by
      rintro rfl
      exact hname (by decide)
    simpa [asksPretty, hpretty] using hq

/-- A query that is accepted asks for an indented body exactly if its last parameter about it
does. -/
theorem pretty_ofPairs (h : ofPairs pairs = .ok q) : q.pretty = asksPretty (.ofList pairs) :=
  rel_of_foldlM (R := fun q parameters => q.pretty = asksPretty parameters) pretty_add rfl h

end Query

end SearchGateway.Elastic
