import SearchGateway.Routing.Pattern

/-!
# Patterns that fit a path

A pattern fits the pieces of a path or it does not (`Fits`). One that fits binds each of its names
(`Fits.exists_mem_bind`).
-/

namespace SearchGateway.Routing

/-- A pattern fits the pieces of a path. -/
inductive Fits : Pattern → List String → Prop where
  | nil : Fits [] []
  | literal {text pattern pieces} :
      Fits pattern pieces → Fits (.literal text :: pattern) (text :: pieces)
  | parameter {name piece pattern pieces} :
      ¬ (piece = "" ∧ pieces = []) → Fits pattern pieces →
        Fits (.parameter name :: pattern) (piece :: pieces)
  | rest {name piece pieces} :
      ¬ (piece = "" ∧ pieces = []) → Fits [.rest name] (piece :: pieces)

variable {α : Type u} {l : List (Pattern × α)} {pattern : Pattern} {piece : String}
  {pieces : List String} {a : α}

/-! ## The patterns that are left after a piece -/

theorem mem_afterLiteral :
    (pattern, a) ∈ afterLiteral piece l ↔ (.literal piece :: pattern, a) ∈ l := by
  simp only [afterLiteral, List.mem_filterMap]
  constructor
  · rintro ⟨⟨pattern', b⟩, hmem, h⟩
    split at h
    · rename_i heq
      split at h
      · rename_i htext
        cases heq
        cases h
        exact htext ▸ hmem
      · cases h
    · cases h
  · exact fun hmem => ⟨_, hmem, by simp⟩

theorem mem_afterParameter :
    (pattern, a) ∈ afterParameter l ↔ ∃ name, (.parameter name :: pattern, a) ∈ l := by
  simp only [afterParameter, List.mem_filterMap]
  constructor
  · rintro ⟨⟨pattern', b⟩, hmem, h⟩
    split at h
    · rename_i name rest c heq
      cases heq
      cases h
      exact ⟨name, hmem⟩
    · cases h
  · exact fun ⟨name, hmem⟩ => ⟨_, hmem, rfl⟩

theorem mem_of_catchAll? (h : catchAll? l = some a) : ∃ name, ([.rest name], a) ∈ l := by
  obtain ⟨⟨pattern', b⟩, hmem, h⟩ := List.exists_of_findSome?_eq_some h
  split at h
  · rename_i name c heq
    cases heq
    cases h
    exact ⟨name, hmem⟩
  · cases h

theorem mem_of_finished? (h : finished? l = some a) : ([], a) ∈ l := by
  obtain ⟨⟨pattern', b⟩, hmem, h⟩ := List.exists_of_findSome?_eq_some h
  split at h
  · rename_i c heq
    cases heq
    cases h
    exact hmem
  · cases h

/-! ## Names -/

/-- The name that a piece of a pattern gives to what it takes. -/
def Segment.name? : Segment → Option String
  | .literal _ => none
  | .parameter name => some name
  | .rest name => some name

/-- The names of a pattern in order. -/
def Pattern.names (pattern : Pattern) : List String :=
  pattern.filterMap Segment.name?

/-- A pattern that fits binds its names in order. -/
theorem Fits.names_bind (h : Fits pattern pieces) :
    (pattern.bind pieces).map (·.1) = pattern.names := by
  induction h with
  | nil => rfl
  | literal _ ih => exact ih
  | parameter _ _ ih => exact congrArg (_ :: ·) ih
  | rest _ => rfl

theorem Fits.exists_mem_bind {name : String} (h : Fits pattern pieces)
    (hname : name ∈ pattern.names) : ∃ piece, (name, piece) ∈ pattern.bind pieces := by
  rw [← h.names_bind, List.mem_map] at hname
  obtain ⟨⟨_, piece⟩, hmem, rfl⟩ := hname
  exact ⟨piece, hmem⟩

end SearchGateway.Routing
