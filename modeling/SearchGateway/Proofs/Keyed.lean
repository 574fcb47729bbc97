import Mathlib.Data.List.Induction
import SearchGateway.Keyed

/-!
# The map of a list of pairs

Of pairs with one key the last one counts.
-/

namespace SearchGateway

/-- The last value that a list of pairs has for a key. -/
def IsLast {α : Type u} (pairs : List (String × α)) (k : String) (v : α) : Prop :=
  ∃ front rest, pairs = front ++ (k, v) :: rest ∧ ∀ pair ∈ rest, pair.1 ≠ k

variable {α : Type u} {pairs : List (String × α)} {pair : String × α} {k : String} {v : α}

theorem IsLast.mem (h : IsLast pairs k v) : (k, v) ∈ pairs := by
  obtain ⟨front, rest, rfl, -⟩ := h
  exact List.mem_append_right _ List.mem_cons_self

theorem Keyed.get?_ofList_eq_find? :
    (Keyed.ofList pairs).get? k = (pairs.reverse.find? (·.1 == k)).map (·.2) := by
  induction pairs using List.reverseRecOn with
  | nil => rfl
  | append_singleton pairs pair ih =>
      rw [Keyed.ofList, List.foldl_append, List.foldl_cons, List.foldl_nil, Keyed.get?_insert,
        List.reverse_append, List.reverse_singleton, List.singleton_append, List.find?_cons]
      by_cases hk : pair.1 = k
      · simp [hk]
      · rw [if_neg hk, beq_eq_false_iff_ne.2 hk]
        exact ih

/-- A map is the map of its entries in any order. -/
theorem Keyed.ofList_of_perm {m : Keyed α} (h : pairs.Perm m.entries) : Keyed.ofList pairs = m := by
  have hnodup : (pairs.map (·.1)).Nodup := (h.map _).nodup_iff.2 m.nodup_keys
  refine Keyed.ext_get? fun k => Option.ext fun v => ?_
  rw [Keyed.get?_ofList hnodup, h.mem_iff, Keyed.get?_eq_some_iff]

theorem Keyed.get?_ofList_eq_some_iff :
    (Keyed.ofList pairs).get? k = some v ↔ IsLast pairs k v := by
  rw [Keyed.get?_ofList_eq_find?, Option.map_eq_some_iff]
  constructor
  · rintro ⟨pair, hfind, rfl⟩
    obtain ⟨hk, rest, front, heq, hrest⟩ := List.find?_eq_some_iff_append.1 hfind
    obtain rfl : pair.1 = k := by simpa using hk
    refine ⟨front.reverse, rest.reverse, ?_, fun p hp => ?_⟩
    · simpa using congrArg List.reverse heq
    · simpa using hrest p (List.mem_reverse.1 hp)
  · rintro ⟨front, rest, rfl, hrest⟩
    refine ⟨(k, v), List.find?_eq_some_iff_append.2 ⟨by simp, rest.reverse, front.reverse, ?_, ?_⟩,
      rfl⟩
    · simp
    · simpa using hrest

end SearchGateway
