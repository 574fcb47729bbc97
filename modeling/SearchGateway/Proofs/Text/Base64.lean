import Mathlib.Tactic.SplitIfs
import SearchGateway.Text.Base64

/-!
# Base64 is read as it is written

Reading the text for some bytes gives the bytes back, and no other text is read as these bytes
(`decodeChars?_eq_some_iff`).
-/

namespace SearchGateway.Text.Base64

theorem digit?_letter {n : Nat} (h : n < 64) : digit? (letter n) = some n := by
  revert n
  decide

theorem letter_ne_padding {n : Nat} (h : n < 64) : letter n ≠ '=' := by
  revert n
  decide

/-- The reader takes four letters for three bytes, unless the last letter is padding. -/
theorem decodeChars?_cons {a b c d : Nat} {rest : List Char} {bytes : Bytes} (ha : a < 64)
    (hb : b < 64) (hc : c < 64) (hd : d < 64) (h : decodeChars? rest = some bytes) :
    decodeChars? (letter a :: letter b :: letter c :: letter d :: rest) =
      some (UInt8.ofNat (a * 4 + b / 16) :: UInt8.ofNat (b % 16 * 16 + c / 4) ::
        UInt8.ofNat (c % 4 * 64 + d) :: bytes) := by
  have hpadding := letter_ne_padding hd
  rw [decodeChars?]
  · simp [digit?_letter, ha, hb, hc, hd, h]
  · intro _ heq
    exact absurd heq hpadding
  · intro heq
    exact absurd heq hpadding

theorem decodeChars?_encodeChars (bytes : Bytes) :
    decodeChars? (encodeChars bytes) = some bytes := by
  fun_induction encodeChars bytes with
  | case1 => rfl
  | case2 a =>
      have ha := a.toNat_lt
      rw [decodeChars?, digit?_letter (by omega), digit?_letter (by omega)]
      have hfilled : a.toNat % 4 * 16 % 16 = 0 := by omega
      simp only [Option.bind_eq_bind, Option.bind_some, hfilled, if_true, Option.some.injEq,
        List.cons.injEq, and_true, ← UInt8.toNat_inj, UInt8.toNat_ofNat']
      omega
  | case3 a b =>
      have ha := a.toNat_lt
      have hb := b.toNat_lt
      rw [decodeChars?, digit?_letter (by omega), digit?_letter (by omega),
        digit?_letter (by omega)]
      · have hfilled : b.toNat % 16 * 4 % 4 = 0 := by omega
        simp only [Option.bind_eq_bind, Option.bind_some, hfilled, if_true, Option.some.injEq,
          List.cons.injEq, and_true, ← UInt8.toNat_inj, UInt8.toNat_ofNat']
        omega
      · exact letter_ne_padding (by omega)
  | case4 a b c rest ih =>
      have ha := a.toNat_lt
      have hb := b.toNat_lt
      have hc := c.toNat_lt
      rw [decodeChars?_cons (by omega) (by omega) (by omega) (by omega) ih]
      simp only [Option.some.injEq, List.cons.injEq, and_true, ← UInt8.toNat_inj,
        UInt8.toNat_ofNat']
      omega

theorem letter_of_digit? {c : Char} {n : Nat} (h : digit? c = some n) : n < 64 ∧ letter n = c := by
  unfold digit? at h
  simp only [Char.le_def, UInt32.le_iff_toNat_le, Char.toNat_val, Char.reduceToNat] at h
  split_ifs at h with hcapital hsmall hdecimal hplus hslash
  · cases h
    refine ⟨by omega, ?_⟩
    rw [letter, if_pos (by omega), Nat.sub_add_cancel (by omega), Char.ofNat_toNat]
  · cases h
    refine ⟨by omega, ?_⟩
    rw [letter, if_neg (by omega), if_pos (by omega), Nat.sub_add_cancel (by omega),
      Char.ofNat_toNat]
  · cases h
    refine ⟨by omega, ?_⟩
    rw [letter, if_neg (by omega), if_neg (by omega), if_pos (by omega), Nat.add_sub_cancel,
      Char.ofNat_toNat]
  · cases h
    exact ⟨by decide, hplus.symm⟩
  · cases h
    exact ⟨by decide, hslash.symm⟩

/-! ## Six bits in the bytes that they are packed into -/

section

variable {x y z w : Nat}

theorem first_of_packed (hx : x < 64) (hy : y < 64) : (x * 4 + y / 16) % 256 / 4 = x := by
  omega

theorem second_of_packed (hy : y < 64) (hz : z < 64) :
    (x * 4 + y / 16) % 256 % 4 * 16 + (y % 16 * 16 + z / 4) % 256 / 16 = y := by
  omega

theorem third_of_packed (hz : z < 64) (hw : w < 64) :
    (y % 16 * 16 + z / 4) % 256 % 16 * 4 + (z % 4 * 64 + w) % 256 / 64 = z := by
  omega

end

/-! ## What the reader accepts -/

/-- The reader accepts no other text than the one that is written for the bytes. -/
theorem eq_encodeChars_of_decodeChars? {letters : List Char} {bytes : Bytes}
    (h : decodeChars? letters = some bytes) : letters = encodeChars bytes := by
  fun_induction decodeChars? letters generalizing bytes with
  | case1 =>
      cases h
      rfl
  | case2 a b =>
      simp only [Option.bind_eq_bind, Option.bind_eq_some_iff] at h
      obtain ⟨x, hx, y, hy, h⟩ := h
      obtain ⟨hxlt, rfl⟩ := letter_of_digit? hx
      obtain ⟨hylt, rfl⟩ := letter_of_digit? hy
      -- the bits that no byte has room for must be zero
      split at h
      · cases h
        have hsecond : (x * 4 + y / 16) % 256 % 4 * 16 = y := by omega
        simp only [encodeChars, UInt8.toNat_ofNat', Nat.reducePow, first_of_packed hxlt hylt,
          hsecond]
      · cases h
  | case3 a b c =>
      simp only [Option.bind_eq_bind, Option.bind_eq_some_iff] at h
      obtain ⟨x, hx, y, hy, z, hz, h⟩ := h
      obtain ⟨hxlt, rfl⟩ := letter_of_digit? hx
      obtain ⟨hylt, rfl⟩ := letter_of_digit? hy
      obtain ⟨hzlt, rfl⟩ := letter_of_digit? hz
      split at h
      · cases h
        have hthird : (y % 16 * 16 + z / 4) % 256 % 16 * 4 = z := by omega
        simp only [encodeChars, UInt8.toNat_ofNat', Nat.reducePow, first_of_packed hxlt hylt,
          second_of_packed hylt hzlt, hthird]
      · cases h
  | case4 a b c d rest hpair hsingle ih =>
      simp only [Option.bind_eq_bind, Option.bind_eq_some_iff] at h
      obtain ⟨x, hx, y, hy, z, hz, w, hw, bytes, hbytes, h⟩ := h
      obtain ⟨hxlt, rfl⟩ := letter_of_digit? hx
      obtain ⟨hylt, rfl⟩ := letter_of_digit? hy
      obtain ⟨hzlt, rfl⟩ := letter_of_digit? hz
      obtain ⟨hwlt, rfl⟩ := letter_of_digit? hw
      cases h
      have hfourth : (z % 4 * 64 + w) % 256 % 64 = w := by omega
      simp only [encodeChars, UInt8.toNat_ofNat', Nat.reducePow, first_of_packed hxlt hylt,
        second_of_packed hylt hzlt, third_of_packed hzlt hwlt, hfourth, ih hbytes]
  | case5 => cases h

/-- The reader accepts exactly the texts that are written. -/
theorem decodeChars?_eq_some_iff {letters : List Char} {bytes : Bytes} :
    decodeChars? letters = some bytes ↔ letters = encodeChars bytes := by
  constructor
  · exact eq_encodeChars_of_decodeChars?
  · rintro rfl
    exact decodeChars?_encodeChars bytes

theorem letter_visible {n : Nat} (h : n < 64) :
    0x20 < (letter n).toNat ∧ (letter n).toNat < 0x7F := by
  revert n
  decide

theorem visible_of_mem_encodeChars {c : Char} {bytes : Bytes} (h : c ∈ encodeChars bytes) :
    0x20 < c.toNat ∧ c.toNat < 0x7F := by
  fun_induction encodeChars bytes with
  | case1 => cases h
  | case2 a =>
      have ha := a.toNat_lt
      simp only [List.mem_cons, List.not_mem_nil, or_false] at h
      rcases h with rfl | rfl | rfl | rfl
      · exact letter_visible (by omega)
      · exact letter_visible (by omega)
      · decide
      · decide
  | case3 a b =>
      have ha := a.toNat_lt
      have hb := b.toNat_lt
      simp only [List.mem_cons, List.not_mem_nil, or_false] at h
      rcases h with rfl | rfl | rfl | rfl
      · exact letter_visible (by omega)
      · exact letter_visible (by omega)
      · exact letter_visible (by omega)
      · decide
  | case4 a b c rest ih =>
      have ha := a.toNat_lt
      have hb := b.toNat_lt
      have hc := c.toNat_lt
      simp only [List.mem_cons] at h
      rcases h with rfl | rfl | rfl | rfl | h
      · exact letter_visible (by omega)
      · exact letter_visible (by omega)
      · exact letter_visible (by omega)
      · exact letter_visible (by omega)
      · exact ih h

theorem encodeChars_ne_nil {bytes : Bytes} (h : bytes ≠ []) : encodeChars bytes ≠ [] := by
  intro hnil
  have hread := decodeChars?_encodeChars bytes
  rw [hnil] at hread
  exact h (Option.some.inj hread).symm

@[simp] theorem toList_encode (bytes : Bytes) : (encode bytes).toList = encodeChars bytes :=
  String.toList_ofList

theorem decode?_encode (bytes : Bytes) : decode? (encode bytes) = some bytes := by
  simp [decode?, encode, decodeChars?_encodeChars]

end SearchGateway.Text.Base64
