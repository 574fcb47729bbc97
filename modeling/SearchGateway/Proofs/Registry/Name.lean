import SearchGateway.Registry.Name

/-!
# Texts that are names

Which texts are names, said without the order in which flaws are looked for
(`nameFlaw?_eq_none_iff`).
-/

namespace SearchGateway.Registry

variable {name : String}

/-- A text is a name if its first character and all of its characters are allowed. -/
theorem nameFlaw?_eq_none_iff : nameFlaw? name = none ↔
    name ≠ "" ∧ (∀ c ∈ name.toList.head?, c ∉ reservedStarts) ∧
      ∀ c ∈ name.toList, c ∉ reservedChars ∧ c.isUpper = false := by
  have hempty : name ≠ "" ↔ name.toList ≠ [] := by simp
  rw [hempty]
  unfold nameFlaw?
  cases name.toList with
  | nil => simp
  | cons first rest =>
      have hchars : (∀ c ∈ first :: rest, c ∉ reservedChars ∧ c.isUpper = false) ↔
          (first :: rest).any (· ∈ reservedChars) = false ∧
            (first :: rest).any Char.isUpper = false := by
        simp only [List.any_eq_false, decide_eq_true_eq, Bool.not_eq_true, forall_and]
      have hstart : (∀ c ∈ (first :: rest).head?, c ∉ reservedStarts) ↔
          first ∉ reservedStarts := by
        simp
      rw [hchars, hstart]
      simp only
      split
      · simp_all only [not_true_eq_false, false_and, and_false, reduceCtorEq]
      · split
        · simp_all only [Bool.true_eq_false, false_and, and_false, reduceCtorEq]
        · split <;> simp_all only [Bool.not_eq_true, Bool.true_eq_false, and_false, reduceCtorEq,
            not_false_eq_true, ne_eq, and_self]

theorem ne_empty_of_nameFlaw? (h : nameFlaw? name = none) : name ≠ "" :=
  (nameFlaw?_eq_none_iff.1 h).1

theorem head?_of_nameFlaw? (h : nameFlaw? name = none) : name.toList.head? ≠ some '_' := by
  intro hhead
  exact (nameFlaw?_eq_none_iff.1 h).2.1 '_' hhead (by decide)

theorem not_mem_of_nameFlaw? {c : Char} (h : nameFlaw? name = none) (hc : c ∈ reservedChars) :
    c ∉ name.toList :=
  fun hmem => ((nameFlaw?_eq_none_iff.1 h).2.2 c hmem).1 hc

end SearchGateway.Registry
