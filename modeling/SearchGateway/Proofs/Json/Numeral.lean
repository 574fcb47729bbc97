import SearchGateway.Json.Numeral
import SearchGateway.Json.Writer
import SearchGateway.Proofs.Outcome
import SearchGateway.Proofs.Text.Numeral
import SearchGateway.Proofs.Text.Utf8

/-!
# Integers are read as they are written

An integer of 64 bits is read exactly, provided that its text ends where no number goes on
(`readNumber_digits`). Whatever number is read, only characters of numbers are taken up for it
(`leaves_of_readNumber`).
-/

namespace SearchGateway.Json

open Text.Utf8 (charBytes)

/-- Whether a byte may stand in a number. -/
def isNumeral (b : UInt8) : Bool :=
  (digitOf? b).isSome || b == 0x2B || b == 0x2D || b == 0x2E || b == 0x45 || b == 0x65

/-- No number goes on here. -/
def Ended (rest : Bytes) : Prop :=
  ∀ b ∈ rest.head?, isNumeral b = false

/-- An integer that is kept exactly. -/
def IsInt64 (n : Int) : Prop :=
  -(Nat.pow 2 63 : Int) ≤ n ∧ n < Nat.pow 2 64

instance (n : Int) : Decidable (IsInt64 n) :=
  inferInstanceAs (Decidable (_ ∧ _))

variable {rest : Bytes} {digits : List Char} {s : Significand}

/-! ## Digits -/

theorem ended_cons {b : UInt8} : Ended (b :: rest) ↔ isNumeral b = false := by
  simp [Ended]

theorem range_of_isDigit {c : Char} (h : c.isDigit) : 48 ≤ c.toNat ∧ c.toNat ≤ 57 := by
  simpa [Char.isDigit, UInt32.le_iff_toNat_le] using h

theorem utf8EncodeChar_digit {c : Char} (h : c.isDigit) :
    String.utf8EncodeChar c = [UInt8.ofNat c.toNat] ∧
      digitOf? (UInt8.ofNat c.toNat) = some (c.toNat - 48) := by
  have hrange := range_of_isDigit h
  refine ⟨Text.Utf8.utf8EncodeChar_ascii (by omega), ?_⟩
  have hvalue : (UInt8.ofNat c.toNat).toNat = c.toNat := by
    rw [UInt8.toNat_ofNat']
    omega
  rw [digitOf?, if_pos, hvalue]
  simp only [UInt8.le_iff_toNat_le, hvalue]
  exact hrange

theorem readDigits_of_ended {step : Significand → Nat → Significand} (h : Ended rest) :
    readDigits step s rest = (s, rest) := by
  cases rest with
  | nil => rfl
  | cons b rest =>
      have hdigit : digitOf? b = none := by
        have hnumeral := ended_cons.1 h
        simp only [isNumeral, Bool.or_eq_false_iff, Option.isSome_eq_false_iff,
          Option.isNone_iff_eq_none] at hnumeral
        simp [hnumeral]
      rw [readDigits, hdigit]

theorem readDigits_append {step : Significand → Nat → Significand}
    (hdigits : ∀ c ∈ digits, c.isDigit) (h : Ended rest) :
    readDigits step s (charBytes digits ++ rest) =
      (digits.foldl (fun s c => step s (c.toNat - 48)) s, rest) := by
  induction digits generalizing s with
  | nil => exact readDigits_of_ended h
  | cons c digits ih =>
      obtain ⟨hbytes, hvalue⟩ := utf8EncodeChar_digit (hdigits c List.mem_cons_self)
      rw [Text.Utf8.charBytes_cons, hbytes, List.cons_append, List.cons_append, readDigits, hvalue]
      exact ih fun c hc => hdigits c (List.mem_cons_of_mem _ hc)

theorem le_ofDigitChars (digits : List Char) (n : Nat) : n ≤ Nat.ofDigitChars 10 digits n := by
  induction digits generalizing n with
  | nil => simp
  | cons c digits ih =>
      rw [Nat.ofDigitChars_cons]
      have := ih (10 * n + (c.toNat - '0'.toNat))
      omega

/-- Digits of a number below `2 ^ 64` all fit into the significand. -/
theorem foldl_whole {n : Nat} {e : Int} (h : Nat.ofDigitChars 10 digits n < Nat.pow 2 64) :
    digits.foldl (fun s c => Significand.whole s (c.toNat - 48)) (⟨n, false, e⟩ : Significand) =
      ⟨Nat.ofDigitChars 10 digits n, false, e⟩ := by
  induction digits generalizing n with
  | nil => simp
  | cons c digits ih =>
      rw [Nat.ofDigitChars_cons] at h
      -- What has been read so far is no more than the whole number.
      have hle := le_ofDigitChars digits (10 * n + (c.toNat - '0'.toNat))
      have hfits : ¬ (n * 10 + (c.toNat - 48) ≥ Nat.pow 2 64) := by
        have hzero : '0'.toNat = 48 := rfl
        omega
      rw [List.foldl_cons, Nat.ofDigitChars_cons, ← ih h]
      simp only [Significand.whole, Bool.false_eq_true, false_or, hfits, if_false]
      rw [Nat.mul_comm]
      rfl

/-! ## Integers -/

theorem readAfterWhole_of_ended {negative : Bool} (h : Ended rest) :
    readAfterWhole negative s rest = readAfterWhole.integer negative s rest := by
  unfold readAfterWhole
  split
  · have := ended_cons.1 h
    simp [isNumeral] at this
  · split
    · have := ended_cons.1 h
      simp only [isNumeral, Bool.or_eq_false_iff] at this
      simp [this]
    · rfl

theorem digitOf?_of_ended (h : Ended rest) : ∀ b ∈ rest.head?, digitOf? b = none := by
  intro b hb
  have hnumeral := h b hb
  simp only [isNumeral, Bool.or_eq_false_iff, Option.isSome_eq_false_iff,
    Option.isNone_iff_eq_none] at hnumeral
  simp [hnumeral]

theorem readNumber_zero {negative : Bool} (h : Ended rest) :
    readNumber negative (0x30 :: rest) = readAfterWhole negative ⟨0, false, 0⟩ rest := by
  have hzero : digitOf? 0x30 = some 0 := by decide
  cases rest with
  | nil => simp only [readNumber, hzero]
  | cons c more => simp [readNumber, hzero, digitOf?_of_ended h c rfl]

theorem readNumber_succ {negative : Bool} {b : UInt8} {d : Nat} (hb : digitOf? b = some (d + 1)) :
    readNumber negative (b :: rest) =
      readAfterWhole negative (readDigits .whole ⟨d + 1, false, 0⟩ rest).1
        (readDigits .whole ⟨d + 1, false, 0⟩ rest).2 := by
  simp only [readNumber, hb]

/-- The digits of an integer are read up to where no number goes on. -/
theorem readNumber_digits {negative : Bool} {n : Nat} {value : Int} (hn : n < Nat.pow 2 64)
    (hvalue : exactInt? negative n = some value) (h : Ended rest) :
    readNumber negative (charBytes (Nat.toDigits 10 n) ++ rest) = .ok (.int value, rest) := by
  have hinteger : readAfterWhole negative ⟨n, false, 0⟩ rest = .ok (.int value, rest) := by
    rw [readAfterWhole_of_ended h, readAfterWhole.integer]
    simp [hvalue]
  rcases Nat.eq_zero_or_pos n with rfl | hpos
  · have hbytes : charBytes (Nat.toDigits 10 0) = [0x30] := by decide
    rw [hbytes, List.singleton_append, readNumber_zero h, hinteger]
  · obtain ⟨c, cs, hcs⟩ := List.exists_cons_of_ne_nil (Nat.toDigits_ne_nil (b := 10) (n := n))
    have hdigits : ∀ x ∈ c :: cs, x.isDigit := by
      rw [← hcs]
      exact fun x hx => Nat.isDigit_of_mem_toDigits (by decide) (by decide) hx
    have hread : Nat.ofDigitChars 10 cs (c.toNat - 48) = n := by
      rw [← Nat.ofDigitChars_ten_toDigits (n := n), hcs, Nat.ofDigitChars_cons]
      simp
    obtain ⟨hbytes, hvalue⟩ := utf8EncodeChar_digit (hdigits c List.mem_cons_self)
    obtain ⟨d, hd⟩ : ∃ d, c.toNat - 48 = d + 1 := by
      have hc : c.toNat ≠ '0'.toNat := fun heq =>
        Text.head_toDigits hpos c (by simp [hcs]) (Char.toNat_inj.1 heq)
      have hrange := range_of_isDigit (hdigits c List.mem_cons_self)
      have hzero : '0'.toNat = 48 := rfl
      exact ⟨c.toNat - 49, by omega⟩
    rw [hd] at hread hvalue
    rw [hcs, Text.Utf8.charBytes_cons, hbytes, List.cons_append, List.cons_append,
      List.nil_append, readNumber_succ hvalue,
      readDigits_append (fun x hx => hdigits x (List.mem_cons_of_mem c hx)) h,
      foldl_whole (hread ▸ hn), hread, hinteger]

/-! ## What is taken up -/

/-- Only characters of numbers stand between a text and what is left of it. -/
def Leaves (bs after : Bytes) : Prop :=
  ∃ used, bs = used ++ after ∧ ∀ b ∈ used, isNumeral b

theorem leaves_refl (bs : Bytes) : Leaves bs bs :=
  ⟨[], rfl, by simp⟩

theorem Leaves.cons {b : UInt8} {bs after : Bytes} (hb : isNumeral b) (h : Leaves bs after) :
    Leaves (b :: bs) after := by
  obtain ⟨used, rfl, hused⟩ := h
  exact ⟨b :: used, rfl, by simpa [hb] using hused⟩

theorem Leaves.trans {bs mid after : Bytes} (h : Leaves bs mid) (h' : Leaves mid after) :
    Leaves bs after := by
  obtain ⟨used, rfl, hused⟩ := h
  obtain ⟨more, rfl, hmore⟩ := h'
  refine ⟨used ++ more, by simp, fun b hb => ?_⟩
  rcases List.mem_append.1 hb with hb | hb
  · exact hused b hb
  · exact hmore b hb

theorem isNumeral_of_digitOf? {b : UInt8} {d : Nat} (h : digitOf? b = some d) : isNumeral b := by
  simp [isNumeral, h]

theorem leaves_readDigits (step : Significand → Nat → Significand) (s : Significand) (bs : Bytes) :
    Leaves bs (readDigits step s bs).2 := by
  fun_induction readDigits step s bs with
  | case1 s => exact leaves_refl []
  | case2 s b bs d hd ih => exact ih.cons (isNumeral_of_digitOf? hd)
  | case3 s b bs hb => exact leaves_refl _

theorem leaves_readExponentDigits (e : Nat) (bs : Bytes) :
    Leaves bs (readExponentDigits e bs).2 := by
  fun_induction readExponentDigits e bs with
  | case1 e => exact leaves_refl []
  | case2 e b bs d hd hlarge => exact (leaves_refl bs).cons (isNumeral_of_digitOf? hd)
  | case3 e b bs d hd hlarge ih => exact ih.cons (isNumeral_of_digitOf? hd)
  | case4 e b bs hb => exact leaves_refl _

theorem leaves_dropWhile_digit (bs : Bytes) :
    Leaves bs (bs.dropWhile fun b => (digitOf? b).isSome) := by
  refine ⟨bs.takeWhile fun b => (digitOf? b).isSome, by simp, fun b hb => ?_⟩
  have hdigit := List.all_takeWhile (p := fun b => (digitOf? b).isSome) (l := bs)
  simp only [List.all_eq_true] at hdigit
  simp [isNumeral, hdigit b hb]

variable {negative : Bool} {bs after : Bytes} {v : Json}

theorem eq_of_finishFloat {e : Int} (h : finishFloat negative s e bs = .ok (v, after)) :
    after = bs := by
  unfold finishFloat at h
  split at h <;> simp_all

theorem leaves_of_readExponent (h : readExponent negative s bs = .ok (v, after)) :
    Leaves bs after := by
  unfold readExponent at h
  split at h
  rename_i down unsigned hsign
  have hunsigned : Leaves bs unsigned := by
    split at hsign <;> cases hsign
    · exact (leaves_refl _).cons (by decide)
    · exact (leaves_refl _).cons (by decide)
    · exact leaves_refl _
  refine hunsigned.trans ?_
  split at h
  · cases h
  · split at h
    · cases h
    · rename_i b digits _ d hb
      refine Leaves.cons (isNumeral_of_digitOf? hb) ?_
      have hleft := leaves_readExponentDigits d digits
      split at h
      · rename_i heq
        rw [heq] at hleft
        rw [eq_of_finishFloat h]
        exact hleft
      · rename_i heq
        rw [heq] at hleft
        split at h
        · cases h
        · cases h
          exact hleft.trans (leaves_dropWhile_digit _)

theorem leaves_of_readAfterPart (h : readAfterPart negative s bs = .ok (v, after)) :
    Leaves bs after := by
  unfold readAfterPart at h
  split at h
  · split at h
    · rename_i hmark
      exact (leaves_of_readExponent h).cons (by simp_all [isNumeral]; tauto)
    · rw [eq_of_finishFloat h]
      exact leaves_refl _
  · rw [eq_of_finishFloat h]
    exact leaves_refl _

theorem leaves_of_readAfterWhole (h : readAfterWhole negative s bs = .ok (v, after)) :
    Leaves bs after := by
  have hinteger (h : readAfterWhole.integer negative s bs = .ok (v, after)) : Leaves bs after := by
    unfold readAfterWhole.integer at h
    split at h
    · cases h
      exact leaves_refl _
    · rw [eq_of_finishFloat h]
      exact leaves_refl _
  unfold readAfterWhole at h
  split at h
  · rename_i rest
    have hpart := leaves_readDigits .part { s with full := false } rest
    split at h
    rename_i t left heq
    split at h
    · cases h
    · rw [heq] at hpart
      exact (hpart.trans (leaves_of_readAfterPart h)).cons (by decide)
  · split at h
    · split at h
      · exact (leaves_of_readExponent h).cons (by simp_all [isNumeral]; tauto)
      · exact hinteger h
    · exact hinteger h

/-- A number that is read takes up characters of numbers only. -/
theorem leaves_of_readNumber (h : readNumber negative bs = .ok (v, after)) :
    Leaves bs after := by
  unfold readNumber at h
  split at h
  · cases h
  · split at h
    · cases h
    · rename_i hb
      refine Leaves.cons (isNumeral_of_digitOf? hb) ?_
      split at h
      · split at h
        · cases h
        · exact leaves_of_readAfterWhole h
      · exact leaves_of_readAfterWhole h
    · rename_i d hb
      exact ((leaves_readDigits .whole _ _).trans (leaves_of_readAfterWhole h)).cons
        (isNumeral_of_digitOf? hb)

end SearchGateway.Json
