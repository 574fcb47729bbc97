import Mathlib.Data.List.Basic
import SearchGateway.Text.Numeral

/-!
# What a numeral says

The reader of unsigned numerals accepts the texts that spell a number below its limit, and gives
this number (`unsigned?_eq_some_iff`).
-/

namespace SearchGateway.Text

variable {c : Char} {s digits : List Char} {text : String} {n m limit : Nat}

theorem decimal?_eq_some_iff : decimal? c = some n ↔ c.isDigit ∧ n = c.toNat - '0'.toNat := by
  have hrange : ('0' ≤ c ∧ c ≤ '9') ↔ c.isDigit := by
    simp [Char.isDigit, Char.le_def]
  unfold decimal?
  split
  · rename_i h
    simp [hrange.1 h, eq_comm]
  · rename_i h
    simp [mt hrange.2 h]

theorem foldlM_decimal?_eq_some_iff :
    s.foldlM (fun n c => (decimal? c).map (n * 10 + ·)) m = some n ↔
      (∀ c ∈ s, c.isDigit) ∧ n = Nat.ofDigitChars 10 s m := by
  induction s generalizing m with
  | nil => simpa [Nat.ofDigitChars] using eq_comm
  | cons c s ih =>
      simp only [List.foldlM_cons, Option.bind_eq_bind, Option.bind_eq_some_iff,
        Option.map_eq_some_iff, decimal?_eq_some_iff, List.forall_mem_cons, Nat.ofDigitChars_cons]
      constructor
      · rintro ⟨_, ⟨_, ⟨hc, rfl⟩, rfl⟩, hs⟩
        rw [Nat.mul_comm m 10] at hs
        obtain ⟨hdigits, hn⟩ := ih.1 hs
        exact ⟨⟨hc, hdigits⟩, hn⟩
      · rintro ⟨⟨hc, hdigits⟩, hn⟩
        refine ⟨_, ⟨_, ⟨hc, rfl⟩, rfl⟩, ?_⟩
        rw [Nat.mul_comm m 10]
        exact ih.2 ⟨hdigits, hn⟩

/-- A text spells a number: perhaps a plus sign, and then one decimal digit or more. -/
def Spells (text : String) (n : Nat) : Prop :=
  ∃ digits, digits ≠ [] ∧ (∀ c ∈ digits, c.isDigit) ∧ n = Nat.ofDigitChars 10 digits 0 ∧
    (text.toList = digits ∨ text.toList = '+' :: digits)

theorem read_digits_eq_some_iff :
    (if digits.isEmpty then none else (digits? 10 decimal? digits).filter (· < limit)) = some n ↔
      digits ≠ [] ∧ (∀ c ∈ digits, c.isDigit) ∧ n = Nat.ofDigitChars 10 digits 0 ∧ n < limit := by
  cases digits with
  | nil => simp
  | cons c s =>
      rw [if_neg (by simp), Option.filter_eq_some_iff, digits?, foldlM_decimal?_eq_some_iff]
      simp [and_assoc]

theorem not_isDigit_plus : ¬ '+'.isDigit := by
  decide

/-- A numeral is read if its number is below the limit. -/
theorem unsigned?_eq_some_iff : unsigned? limit text = some n ↔ Spells text n ∧ n < limit := by
  unfold unsigned?
  simp only
  split
  · rename_i rest htext
    rw [read_digits_eq_some_iff]
    constructor
    · rintro ⟨hne, hdigits, hn, hlimit⟩
      exact ⟨⟨rest, hne, hdigits, hn, .inr htext⟩, hlimit⟩
    · rintro ⟨⟨digits, hne, hdigits, hn, hplain | hsigned⟩, hlimit⟩
      · -- A plus sign is no digit.
        exact absurd (hdigits '+' (by simp [← hplain, htext])) not_isDigit_plus
      · cases htext.symm.trans hsigned
        exact ⟨hne, hdigits, hn, hlimit⟩
  · rename_i htext
    rw [read_digits_eq_some_iff]
    constructor
    · rintro ⟨hne, hdigits, hn, hlimit⟩
      exact ⟨⟨_, hne, hdigits, hn, .inl rfl⟩, hlimit⟩
    · rintro ⟨⟨digits, hne, hdigits, hn, rfl | hsigned⟩, hlimit⟩
      · exact ⟨hne, hdigits, hn, hlimit⟩
      · exact absurd hsigned (htext digits)

theorem head_toDigits {n : Nat} (h : 0 < n) : ∀ c ∈ (Nat.toDigits 10 n).head?, c ≠ '0' := by
  induction n using Nat.base_induction 10 (by decide) with
  | single m hm =>
      rw [Nat.toDigits_of_lt_base hm]
      simp only [List.head?_cons, Option.mem_some_iff, forall_eq', ne_eq, Nat.digitChar_eq_zero]
      omega
  | digit m k hk hm ih =>
      rw [← Nat.toDigits_append_toDigits (by decide) hm hk, List.head?_append_of_ne_nil _
        Nat.toDigits_ne_nil]
      exact ih hm

end SearchGateway.Text
