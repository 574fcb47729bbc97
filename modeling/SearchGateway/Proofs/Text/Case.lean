import SearchGateway.Proofs.Text.Blank
import SearchGateway.Proofs.Text.Split
import SearchGateway.Text.Case

/-!
# Lower case and the shape of a text

Only letters change in lower case, and they stay letters. So blanks and separators stand where they
stood: lowering a text lowers its pieces (`splitAt_lowered`) and what trimming leaves of it
(`trimmed_lowered`).
-/

namespace SearchGateway.Text

/-- A character that changes is a letter before and after. -/
theorem toLower_eq_self_or_letter (c : Char) :
    c.toLower = c ∨ 65 ≤ c.toNat ∧ c.toNat ≤ 90 ∧ c.toLower.toNat = c.toNat + 32 := by
  unfold Char.toLower
  split
  · rename_i h
    have hlow : 65 ≤ c.val.toNat := UInt32.le_iff_toNat_le.1 h.1
    have hhigh : c.val.toNat ≤ 90 := UInt32.le_iff_toNat_le.1 h.2
    refine .inr ⟨hlow, hhigh, ?_⟩
    have hfits : c.val.toNat + 32 < 2 ^ 32 := by omega
    exact (UInt32.toNat_add c.val 32).trans (Nat.mod_eq_of_lt hfits)
  · exact .inl rfl

theorem isBlank_toLower (c : Char) : isBlank c.toLower = isBlank c := by
  rcases toLower_eq_self_or_letter c with h | ⟨hlow, hhigh, hlower⟩
  · rw [h]
  · rw [isBlank_eq_false (by omega) (by omega), isBlank_eq_false (by omega) (by omega)]

theorem toLower_beq {mark : Char} (hmark : mark.toNat < 65) (c : Char) :
    (c.toLower == mark) = (c == mark) := by
  rcases toLower_eq_self_or_letter c with h | ⟨hlow, -, hlower⟩
  · rw [h]
  · have hc : c ≠ mark := by rintro rfl; omega
    have hl : c.toLower ≠ mark := by rintro rfl; omega
    rw [beq_false_of_ne hc, beq_false_of_ne hl]

theorem trimmed_lowered (s : String) : trimmed (lowered s) = lowered (trimmed s) := by
  have hblank : isBlank ∘ Char.toLower = isBlank := funext isBlank_toLower
  simp [trimmed, lowered, trim, List.dropWhile_map, dropEndWhile_map, hblank]

theorem splitAt_lowered {mark : Char} (hmark : mark.toNat < 65) (s : String) :
    splitAt mark (lowered s) = (splitAt mark s).map lowered := by
  have hbeq : (· == mark) ∘ Char.toLower = (· == mark) := funext (toLower_beq hmark)
  simp [splitAt, lowered, split_map, hbeq]

end SearchGateway.Text
