import SearchGateway.Json.Shortest
import SearchGateway.Proofs.Json.Numeral
import Mathlib.Data.List.TakeWhile

/-!
# The characters of a binary64 value

The text of a value is not empty (`text_ne_nil`), and only digits, a point, signs and the mark of
an exponent stand in it (`mem_text`).
-/

namespace SearchGateway.Binary64

variable {x : Binary64} {ds : List Char} {point : Int} {c : Char}

/-- A character that may stand in the text of a number. -/
def IsMark (c : Char) : Prop :=
  c.isDigit ∨ c = '.' ∨ c = 'e' ∨ c = '+' ∨ c = '-'

/-! ## Which characters -/

theorem isMark_toDigits {n : Nat} (h : c ∈ Nat.toDigits 10 n) : IsMark c :=
  .inl (Nat.isDigit_of_mem_toDigits (by decide) (by decide) h)

theorem isMark_replicate {n : Nat} (h : c ∈ List.replicate n '0') : IsMark c := by
  rw [List.eq_of_mem_replicate h]
  exact .inl (by decide)

theorem mem_digits (h : c ∈ x.digits.1) : IsMark c := by
  unfold digits at h
  split at h
  · rw [List.mem_singleton.1 h]
    exact .inl (by decide)
  · have hkept := (List.dropWhile_suffix _).subset (List.mem_reverse.1 h)
    exact isMark_toDigits (List.mem_reverse.1 hkept)

theorem mem_exponentText {e : Int} (h : c ∈ exponentText e) : IsMark c := by
  simp only [exponentText, List.mem_cons] at h
  rcases h with rfl | rfl | h
  · exact .inr (.inr (.inl rfl))
  · split
    · simp [IsMark]
    · simp [IsMark]
  · exact isMark_toDigits h

theorem mem_layout (hds : ∀ d ∈ ds, IsMark d) (h : c ∈ layout ds point) : IsMark c := by
  have hpoint : IsMark '.' := .inr (.inl rfl)
  have hzero : IsMark '0' := .inl (by decide)
  unfold layout at h
  split at h
  · simp only [List.mem_append, List.mem_cons] at h
    rcases h with (h | h) | rfl | h
    · exact hds c (List.mem_of_mem_take h)
    · exact isMark_replicate h
    · exact hpoint
    · split at h
      · rwa [List.mem_singleton.1 h]
      · exact hds c (List.mem_of_mem_drop h)
  · split at h
    · simp only [List.mem_append, List.mem_cons] at h
      rcases h with rfl | rfl | h | h
      · exact hzero
      · exact hpoint
      · exact isMark_replicate h
      · exact hds c h
    · split at h
      · rcases List.mem_cons.1 h with rfl | h
        · exact hds _ (by simp)
        · exact mem_exponentText h
      · simp only [List.mem_append, List.mem_cons] at h
        rcases h with rfl | rfl | h | h
        · exact hds _ (by simp)
        · exact hpoint
        · exact hds _ (by simp [h])
        · exact mem_exponentText h
      · cases h

theorem mem_text (h : c ∈ x.text) : IsMark c := by
  rcases List.mem_append.1 h with h | h
  · split at h
    · rw [List.mem_singleton.1 h]
      simp [IsMark]
    · cases h
  · exact mem_layout (fun d hd => mem_digits hd) h

/-! ## At least one of them -/

/-- Zero rounds to no other value. -/
theorem pos_of_roundsTo {mantissa n : Nat} {exponent e : Int} (hm : mantissa ≠ 0)
    (h : roundsTo mantissa exponent n e) : 0 < n := by
  refine Nat.pos_of_ne_zero fun hn => ?_
  subst hn
  have hscale : 0 < Nat.pow 10 (-e).toNat * Nat.pow 2 (exponent - 2).toNat :=
    Nat.mul_pos (Nat.pow_pos (by decide)) (Nat.pow_pos (by decide))
  have hlow (d : Nat) (hd : d ≤ 2) :
      0 < (4 * mantissa - d) * (Nat.pow 10 (-e).toNat * Nat.pow 2 (exponent - 2).toNat) :=
    Nat.mul_pos (by omega) hscale
  have hlow : 0 < (4 * mantissa - (if mantissa = Nat.pow 2 52 ∧ exponent > -1074 then 1 else 2)) *
      (Nat.pow 10 (-e).toNat * Nat.pow 2 (exponent - 2).toNat) := by
    refine hlow _ ?_
    split <;> decide
  unfold roundsTo at h
  simp only [Nat.zero_mul] at h
  split at h
  · simp only [Bool.and_eq_true, decide_eq_true_eq] at h
    exact absurd h.1 (Nat.not_le.2 hlow)
  · simp only [Bool.and_eq_true, decide_eq_true_eq] at h
    exact Nat.not_lt_zero _ h.1

theorem pos_of_candidate? {count n : Nat} {e : Int} (hx : x.mantissa ≠ 0)
    (h : x.candidate? count = some (n, e)) : 0 < n := by
  unfold candidate? at h
  simp only at h
  split at h
  · rename_i hfits _
    simp only [Option.some.injEq, Prod.mk.injEq] at h
    exact h.1 ▸ pos_of_roundsTo hx hfits
  · simp only [Option.some.injEq, Prod.mk.injEq] at h
    exact h.1 ▸ Nat.succ_pos _
  · rename_i hfits _
    simp only [Option.some.injEq, Prod.mk.injEq] at h
    have hlow := pos_of_roundsTo hx hfits
    split at h
    · exact h.1 ▸ hlow
    · exact h.1 ▸ Nat.succ_pos _
  · cases h

theorem kept_ne_nil {n : Nat} (hn : 0 < n) :
    ((Nat.toDigits 10 n).reverse.dropWhile (· == '0')).reverse ≠ [] := by
  obtain ⟨c, cs, hcs⟩ := List.exists_cons_of_ne_nil (Nat.toDigits_ne_nil (b := 10) (n := n))
  intro h
  have hall := List.dropWhile_eq_nil_iff.1 (List.reverse_eq_nil_iff.1 h)
  have hc : c = '0' := by simpa using hall c (by simp [hcs])
  exact Text.head_toDigits hn c (by simp [hcs]) hc

/-- There are digits, unless a zero stands for the value. -/
theorem digits_ne_nil_or (x : Binary64) : x.digits.1 ≠ [] ∨ x.digits.2 = 1 := by
  unfold digits
  split
  · exact .inr rfl
  · rename_i hx
    cases hfound : (List.range 17).findSome? fun i => x.candidate? (i + 1) with
    | none => exact .inr rfl
    | some found =>
        obtain ⟨i, -, hcandidate⟩ := List.exists_of_findSome?_eq_some hfound
        exact .inl (kept_ne_nil (pos_of_candidate? hx hcandidate))

theorem layout_ne_nil (h : ds ≠ [] ∨ point = 1) : layout ds point ≠ [] := by
  unfold layout
  split
  · simp
  · split
    · simp
    · split
      · simp
      · simp
      · simp_all

theorem text_ne_nil (x : Binary64) : x.text ≠ [] := by
  intro h
  exact layout_ne_nil x.digits_ne_nil_or (List.append_eq_nil_iff.1 h).2

end SearchGateway.Binary64
