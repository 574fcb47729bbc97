import SearchGateway.Proofs.Text.Blank
import SearchGateway.Proofs.Text.Numeral
import SearchGateway.Proofs.Text.Split
import SearchGateway.Toml.Word

/-!
# Words are read as what was written

A number is written in decimal digits, which spell no moment (`readWord?_nat`), and a truth value by
its name (`readWord?_truth`).
-/

namespace SearchGateway.Toml

variable {c : Char} {s word rest digits : List Char} {n : Nat}

/-! ## Moments -/

theorem mem_of_after? (h : after? c s = some rest) : c ∈ s := by
  cases s with
  | nil => cases h
  | cons d s =>
      rw [after?] at h
      split at h
      · rename_i hd
        exact hd ▸ List.mem_cons_self
      · cases h

theorem mem_of_digitRun? {value : Nat} {after : List Char}
    (hrun : digitRun? n s = some (value, after)) (hmark : after? c after = some rest) : c ∈ s := by
  unfold digitRun? at hrun
  split at hrun
  · obtain ⟨_, -, heq⟩ := Option.map_eq_some_iff.1 hrun
    obtain rfl := (Prod.mk.inj heq).2
    exact List.mem_of_mem_drop (mem_of_after? hmark)
  · cases hrun

theorem mem_of_afterDate? (h : afterDate? s = some rest) : '-' ∈ s := by
  simp only [afterDate?, Option.bind_eq_bind, Option.bind_eq_some_iff, Prod.exists] at h
  obtain ⟨year, _, hyear, _, hmark, -⟩ := h
  exact mem_of_digitRun? hyear hmark

theorem mem_of_afterMinute? (h : afterMinute? s = some rest) : ':' ∈ s := by
  simp only [afterMinute?, Option.bind_eq_bind, Option.bind_eq_some_iff, Prod.exists] at h
  obtain ⟨hour, _, hhour, _, hmark, -⟩ := h
  exact mem_of_digitRun? hhour hmark

theorem mem_of_afterTime? (h : afterTime? s = some rest) : ':' ∈ s := by
  simp only [afterTime?, Option.bind_eq_bind, Option.bind_eq_some_iff] at h
  obtain ⟨_, hminute, -⟩ := h
  exact mem_of_afterMinute? hminute

/-- A moment has a hyphen or a colon. -/
theorem isMoment_eq_false (hdate : '-' ∉ s) (htime : ':' ∉ s) : isMoment s = false := by
  have hno : afterDate? s = none :=
    Option.eq_none_iff_forall_ne_some.2 fun _ h => hdate (mem_of_afterDate? h)
  have hnone : afterTime? s = none :=
    Option.eq_none_iff_forall_ne_some.2 fun _ h => htime (mem_of_afterTime? h)
  rw [isMoment, hno, hnone]
  rfl

/-! ## Integers -/

theorem not_mem_of_digits {mark : Char} (h : ∀ c ∈ digits, c.isDigit)
    (hmark : mark.isDigit = false) :
    mark ∉ digits := fun hmem => by simp [h mark hmem] at hmark

theorem ungroup?_digits (hne : digits ≠ []) (h : ∀ c ∈ digits, c.isDigit) :
    ungroup? Text.decimal? digits = some digits := by
  have hplain : ∀ c ∈ digits, (c == '_') = false := fun c hc =>
    beq_eq_false_iff_ne.2 fun heq => not_mem_of_digits h (by decide) (heq ▸ hc)
  have hread : digits.all fun c => (Text.decimal? c).isSome := List.all_eq_true.2 fun c hc =>
    Option.isSome_of_eq_some (Text.decimal?_eq_some_iff.2 ⟨h c hc, rfl⟩)
  have hsome : digits.isEmpty = false := List.isEmpty_eq_false_iff.2 hne
  simp [ungroup?, Text.split_of_forall_not hplain, hread, hsome, -List.all_eq_true]

theorem grouped?_digits (hne : digits ≠ []) (h : ∀ c ∈ digits, c.isDigit) :
    grouped? 10 Text.decimal? digits = some (Nat.ofDigitChars 10 digits 0) := by
  rw [grouped?, ungroup?_digits hne h, Option.bind_some, Text.digits?,
    Text.foldlM_decimal?_eq_some_iff]
  exact ⟨h, rfl⟩

theorem hasLeadingZero_toDigits (n : Nat) : hasLeadingZero (Nat.toDigits 10 n) = false := by
  rcases Nat.eq_zero_or_pos n with rfl | hpos
  · rfl
  · have hhead := Text.head_toDigits hpos
    unfold hasLeadingZero
    split
    · rename_i heq
      exact absurd rfl (hhead '0' (by simp [heq]))
    · rfl

/-- The number that decimal digits spell, if it has a place in 64 bits. -/
theorem integer?_digits (hne : digits ≠ []) (h : ∀ c ∈ digits, c.isDigit)
    (hzero : hasLeadingZero digits = false) :
    integer? digits = fit? (Nat.ofDigitChars 10 digits 0) := by
  have hletter (mark : Char) (hmark : mark.isDigit = false) := not_mem_of_digits h hmark
  unfold integer?
  split
  · exact absurd (by simp) (hletter 'x' (by decide))
  · exact absurd (by simp) (hletter 'o' (by decide))
  · exact absurd (by simp) (hletter 'b' (by decide))
  · have hsign : cutSign digits = (false, digits) := by
      unfold cutSign
      split
      · exact absurd (by simp) (hletter '-' (by decide))
      · exact absurd (by simp) (hletter '+' (by decide))
      · rfl
    rw [hsign]
    dsimp only
    rw [hzero, if_neg Bool.false_ne_true, grouped?_digits hne h, Option.bind_some,
      if_neg Bool.false_ne_true]

theorem integer?_toDigits (hn : n < Nat.pow 2 63) :
    integer? (Nat.toDigits 10 n) = some (n : Int) := by
  have hdigits : ∀ c ∈ Nat.toDigits 10 n, c.isDigit := fun c hc =>
    Nat.isDigit_of_mem_toDigits (by decide) (by decide) hc
  rw [integer?_digits Nat.toDigits_ne_nil hdigits (hasLeadingZero_toDigits n),
    Nat.ofDigitChars_ten_toDigits, fit?, if_pos]
  have hpow : (Int.pow 2 63 : Int) = ((Nat.pow 2 63 : Nat) : Int) := by decide
  rw [hpow]
  omega

/-! ## Words -/

/-- A word ends where no character of a word follows and no time of day may follow. -/
theorem cutWord_append (hword : ∀ c ∈ word, isWordChar c)
    (hrest : ∀ c ∈ rest.head?, isWordChar c = false ∧ c ≠ ' ') :
    cutWord (word ++ rest) = (word, rest) := by
  have hend : ∀ c ∈ rest.head?, isWordChar c = false := fun c hc => (hrest c hc).1
  simp only [cutWord, Text.takeWhile_append_of_head hword hend,
    Text.dropWhile_append_of_head hword hend]
  split
  · exact absurd rfl (hrest ' ' rfl).2
  · rfl

theorem ofWord?_toDigits (hn : n < Nat.pow 2 63) :
    Value.ofWord? (Nat.toDigits 10 n) = some (.integer n) := by
  have hdigits : ∀ c ∈ Nat.toDigits 10 n, c.isDigit := fun c hc =>
    Nat.isDigit_of_mem_toDigits (by decide) (by decide) hc
  have hname (mark : Char) {name : List Char} (hmem : mark ∈ name) (hmark : mark.isDigit = false) :
      Nat.toDigits 10 n ≠ name := fun heq => not_mem_of_digits hdigits hmark (heq ▸ hmem)
  have hmoment : isMoment (Nat.toDigits 10 n) = false :=
    isMoment_eq_false (not_mem_of_digits hdigits (by decide))
      (not_mem_of_digits hdigits (by decide))
  rw [Value.ofWord?, if_neg (hname 't' (by decide) (by decide)),
    if_neg (hname 'f' (by decide) (by decide)), hmoment, if_neg Bool.false_ne_true,
    integer?_toDigits hn]

theorem readWord?_nat (hn : n < Nat.pow 2 63)
    (hrest : ∀ c ∈ rest.head?, isWordChar c = false ∧ c ≠ ' ') :
    readWord? ((toString (n : Int)).toList ++ rest) = some (.integer n, rest) := by
  have htext : (toString (n : Int)).toList = Nat.toDigits 10 n := Nat.toList_repr
  have hword : ∀ c ∈ Nat.toDigits 10 n, isWordChar c := fun c hc => by
    simp [isWordChar, Char.isAlphanum, Nat.isDigit_of_mem_toDigits (by decide) (by decide) hc]
  rw [readWord?, htext, cutWord_append hword hrest]
  simp only [ofWord?_toDigits hn, Option.map_some]

theorem readWord?_truth (b : Bool) (hrest : ∀ c ∈ rest.head?, isWordChar c = false ∧ c ≠ ' ') :
    readWord? ((toString b).toList ++ rest) = some (.truth b, rest) := by
  have hword : ∀ c ∈ (toString b).toList, isWordChar c :=
    List.all_eq_true.1 (by cases b <;> decide)
  rw [readWord?, cutWord_append hword hrest]
  cases b <;> rfl

end SearchGateway.Toml
