import SearchGateway.Text.Pattern

/-!
# Stems of patterns

A pattern has a stem exactly if it ends in a star, and then the stem is what stands before it.
-/

namespace SearchGateway.Text

theorem stem?_eq_some_iff {pattern : String} {stem : List Char} :
    stem? pattern = some stem ↔ pattern = String.ofList stem ++ "*" := by
  unfold stem?
  constructor
  · intro h
    split at h
    · rename_i hlast
      obtain ⟨start, hstart⟩ := List.getLast?_eq_some_iff.1 hlast
      cases h
      apply String.toList_injective
      simp [hstart]
    · cases h
  · rintro rfl
    simp

@[simp] theorem stem?_star {start : String} : stem? (start ++ "*") = some start.toList :=
  stem?_eq_some_iff.2 (by simp)

/-- A text with a final star covers what begins with the text before the star. -/
theorem covers_star {start text : String} :
    covers (start ++ "*") text = true ↔ start.toList <+: text.toList := by
  simp [covers]

theorem covers_self (text : String) : covers text text = true := by
  unfold covers
  split
  · rename_i stem hstem
    simp [stem?_eq_some_iff.1 hstem]
  · exact beq_self_eq_true text

theorem stem?_eq_none {pattern : String} (h : '*' ∉ pattern.toList) : stem? pattern = none := by
  unfold stem?
  rw [if_neg fun hlast => h (List.mem_of_getLast? hlast)]

end SearchGateway.Text
