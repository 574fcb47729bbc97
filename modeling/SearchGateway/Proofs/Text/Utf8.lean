import SearchGateway.Proofs.Outcome
import SearchGateway.Text.Utf8

/-!
# UTF-8 is read as it is written

Which bytes are one character is said once, as a table of the lengths (`Sequence`). The writer
produces these sequences and the reader takes them off the front of what follows, so the strict
reader accepts exactly the bytes of a text (`decode?_eq_some_iff`).
-/

namespace SearchGateway.Text.Utf8

/-! ## Sequences -/

/-- A second byte may follow a lead byte: no character is written longer than it has to be, no
surrogate is a character, and none lies above U+10FFFF. -/
structure MayFollow (lead second : Nat) : Prop where
  least : 0x80 ≤ second
  greatest : second ≤ 0xBF
  three : lead = 0xE0 → 0xA0 ≤ second
  surrogate : lead = 0xED → second ≤ 0x9F
  four : lead = 0xF0 → 0x90 ≤ second
  last : lead = 0xF4 → second ≤ 0x8F

/-- The bytes of one character. -/
inductive Sequence : Bytes → Char → Prop where
  | one {a x} : a.toNat < 0x80 → x.toNat = a.toNat → Sequence [a] x
  | two {a b x} : 0xC2 ≤ a.toNat → a.toNat < 0xE0 → MayFollow a.toNat b.toNat →
      x.toNat = a.toNat % 0x20 * 0x40 + payload b → Sequence [a, b] x
  | three {a b c x} : 0xE0 ≤ a.toNat → a.toNat < 0xF0 → MayFollow a.toNat b.toNat →
      isContinuation c → x.toNat = (a.toNat % 0x10 * 0x40 + payload b) * 0x40 + payload c →
      Sequence [a, b, c] x
  | four {a b c d x} : 0xF0 ≤ a.toNat → a.toNat < 0xF5 → MayFollow a.toNat b.toNat →
      isContinuation c → isContinuation d →
      x.toNat = ((a.toNat % 0x08 * 0x40 + payload b) * 0x40 + payload c) * 0x40 + payload d →
      Sequence [a, b, c, d] x

variable {lead second : UInt8} {bytes rest tail : Bytes} {x : Char}

theorem mayFollow_iff :
    ((secondRange lead).1 ≤ second ∧ second ≤ (secondRange lead).2) ↔
      MayFollow lead.toNat second.toNat := by
  simp only [secondRange, UInt8.le_iff_toNat_le, beq_iff_eq, ← UInt8.toNat_inj]
  constructor
  · intro h
    split_ifs at h <;> constructor <;> simp_all <;> omega
  · rintro ⟨hleast, hgreatest, hthree, hsurrogate, hfour, hlast⟩
    split_ifs <;> simp_all

theorem isContinuation_iff {b : UInt8} :
    isContinuation b = true ↔ 0x80 ≤ b.toNat ∧ b.toNat ≤ 0xBF := by
  simp [isContinuation, UInt8.le_iff_toNat_le]

theorem toNat_scalar (x : Char) : x.toNat < 0xD800 ∨ 0xDFFF < x.toNat ∧ x.toNat < 0x110000 := by
  have hvalid := x.valid
  simpa [UInt32.isValidChar, Nat.isValidChar] using hvalid

theorem toNat_ofNat {n : Nat} (h : n < 0xD800 ∨ 0xDFFF < n ∧ n < 0x110000) :
    (Char.ofNat n).toNat = n := by
  have hvalid : n.isValidChar := h
  rw [Char.ofNat, dif_pos hvalid]
  rfl

/-! ## Writing -/

theorem sequence_utf8EncodeChar (x : Char) : Sequence (String.utf8EncodeChar x) x := by
  have hscalar := toNat_scalar x
  simp only [String.utf8EncodeChar, Char.toNat_val]
  split_ifs with hone htwo hthree
  · refine .one ?_ ?_ <;> simp <;> omega
  · refine .two ?_ ?_ ?_ ?_
    · simp; omega
    · simp; omega
    · constructor <;> simp <;> omega
    · simp [payload]; omega
  · refine .three ?_ ?_ ?_ ?_ ?_
    · simp; omega
    · simp; omega
    · constructor <;> simp <;> omega
    · simp [isContinuation_iff]; omega
    · simp [payload]; omega
  · refine .four ?_ ?_ ?_ ?_ ?_ ?_
    · simp; omega
    · simp; omega
    · constructor <;> simp <;> omega
    · simp [isContinuation_iff]; omega
    · simp [isContinuation_iff]; omega
    · simp [payload]; omega

/-- There is one sequence for each character. -/
theorem Sequence.eq (h : Sequence bytes x) : bytes = String.utf8EncodeChar x := by
  simp only [String.utf8EncodeChar, Char.toNat_val]
  cases h with
  | one ha hx =>
      rw [hx, if_pos (by omega)]
      simp
  | two hlow hhigh hb hx =>
      simp only [payload] at hx
      obtain ⟨hleast, hgreatest, -, -, -, -⟩ := hb
      rw [hx, if_neg (by omega), if_pos (by omega)]
      simp [← UInt8.toNat_inj]
      omega
  | three hlow hhigh hb hc hx =>
      simp only [payload] at hx
      rw [isContinuation_iff] at hc
      obtain ⟨hleast, hgreatest, hshort, -, -, -⟩ := hb
      rw [hx, if_neg (by omega), if_neg (by omega), if_pos (by omega)]
      simp [← UInt8.toNat_inj]
      omega
  | four hlow hhigh hb hc hd hx =>
      simp only [payload] at hx
      rw [isContinuation_iff] at hc hd
      obtain ⟨hleast, hgreatest, -, -, hshort, -⟩ := hb
      rw [hx, if_neg (by omega), if_neg (by omega), if_neg (by omega)]
      simp [← UInt8.toNat_inj]
      omega

/-! ## Reading -/

/-- The reader takes a sequence off the front, whatever follows it. -/
theorem Sequence.next_eq (h : Sequence (lead :: tail) x) (rest : Bytes) :
    next lead (tail ++ rest) = .scalar x (tail.length + 1) := by
  have hscalar (n : Nat) (hn : x.toNat = n) : Char.ofNat n = x := hn ▸ x.ofNat_toNat
  simp only [next, UInt8.lt_iff_toNat_lt, UInt8.reduceToNat]
  cases h with
  | one ha hx =>
      rw [if_pos ha, hscalar _ hx]
      rfl
  | two hlow hhigh hb hx =>
      rw [if_neg (by omega), if_neg (by omega), if_pos hhigh]
      simp [mayFollow_iff.2 hb, hscalar _ hx]
  | three hlow hhigh hb hc hx =>
      rw [if_neg (by omega), if_neg (by omega), if_neg (by omega), if_pos hhigh]
      simp [mayFollow_iff.2 hb, hscalar _ hx, hc]
  | four hlow hhigh hb hc hd hx =>
      rw [if_neg (by omega), if_neg (by omega), if_neg (by omega), if_neg (by omega),
        if_pos hhigh]
      simp [mayFollow_iff.2 hb, hscalar _ hx, hc, hd]

/-- What the reader takes for a character is its sequence. -/
theorem sequence_of_next {width : Nat} (h : next lead rest = .scalar x width) :
    ∃ tail after, rest = tail ++ after ∧ width = tail.length + 1 ∧ Sequence (lead :: tail) x := by
  simp only [next, UInt8.lt_iff_toNat_lt, UInt8.reduceToNat] at h
  split_ifs at h with hone hstray htwo hthree hfour
  · cases h
    exact ⟨[], rest, rfl, rfl, .one hone (toNat_ofNat (by omega))⟩
  · split at h
    · split_ifs at h with hb
      cases h
      simp only [Bool.and_eq_true, decide_eq_true_eq, mayFollow_iff] at hb
      refine ⟨[_], _, rfl, rfl, .two (by omega) htwo hb (toNat_ofNat ?_)⟩
      simp only [payload]
      omega
    · cases h
  · split at h
    · split_ifs at h with hb hc
      cases h
      simp only [Bool.not_eq_true, Bool.not_eq_false', Bool.and_eq_true, decide_eq_true_eq,
        mayFollow_iff] at hb hc
      refine ⟨[_, _], _, rfl, rfl, .three (by omega) hthree hb hc (toNat_ofNat ?_)⟩
      obtain ⟨hleast, hgreatest, hshort, hsurrogate, -, -⟩ := hb
      simp only [payload]
      omega
    · cases h
    · cases h
  · split at h
    · split_ifs at h with hb hc hd
      cases h
      simp only [Bool.not_eq_true, Bool.not_eq_false', Bool.and_eq_true, decide_eq_true_eq,
        mayFollow_iff] at hb hc hd
      refine ⟨[_, _, _], _, rfl, rfl, .four (by omega) hfour hb hc hd (toNat_ofNat ?_)⟩
      obtain ⟨hleast, hgreatest, -, -, hshort, hlast⟩ := hb
      simp only [payload]
      omega
    · cases h
    · cases h
    · cases h

/-! ## Texts -/

theorem scalars_go_encode (offset : Nat) (seen text : List Char) :
    scalars.go offset seen (text.flatMap String.utf8EncodeChar) = .ok (seen.reverse ++ text) := by
  induction text generalizing offset seen with
  | nil => simp [scalars.go]
  | cons x text ih =>
      obtain ⟨lead, tail, hbytes⟩ :=
        List.exists_cons_of_ne_nil (String.utf8EncodeChar_ne_nil (c := x))
      have hsequence : Sequence (lead :: tail) x := hbytes ▸ sequence_utf8EncodeChar x
      rw [List.flatMap_cons, hbytes, List.cons_append, scalars.go, hsequence.next_eq]
      simp [ih]

theorem flatMap_of_scalars_go {offset : Nat} {seen text : List Char}
    (h : scalars.go offset seen bytes = .ok text) :
    ∃ read, text = seen.reverse ++ read ∧ read.flatMap String.utf8EncodeChar = bytes := by
  fun_induction scalars.go offset seen bytes with
  | case1 offset seen =>
      cases h
      exact ⟨[], by simp, rfl⟩
  | case2 offset seen lead rest x width hnext ih =>
      obtain ⟨tail, after, rfl, rfl, hsequence⟩ := sequence_of_next hnext
      obtain ⟨read, rfl, hread⟩ := ih h
      refine ⟨x :: read, by simp, ?_⟩
      rw [List.flatMap_cons, hread, ← hsequence.eq]
      simp
  | case3 => cases h

theorem decode_encode (s : String) : decode (encode s) = .ok s := by
  simp [decode, encode, scalars, scalars_go_encode, Except.map]

theorem encode_injective {s t : String} (h : encode s = encode t) : s = t := by
  have hread := decode_encode s
  rw [h, decode_encode] at hread
  exact (Except.ok.inj hread).symm

/-- The strict reader accepts exactly the bytes of a text. -/
theorem decode?_eq_some_iff {s : String} : decode? bytes = some s ↔ encode s = bytes := by
  constructor
  · intro h
    obtain ⟨text, htext, rfl⟩ := map_eq_ok_iff.1 (toOption_eq_some_iff.1 h)
    obtain ⟨read, hread, rfl⟩ := flatMap_of_scalars_go htext
    simp [encode, hread]
  · rintro rfl
    exact toOption_eq_some_iff.2 (decode_encode s)

/-! ## Characters -/

/-- The bytes of some characters. -/
def charBytes (text : List Char) : Bytes :=
  text.flatMap String.utf8EncodeChar

@[simp] theorem charBytes_nil : charBytes [] = [] := rfl

@[simp] theorem charBytes_cons {text : List Char} :
    charBytes (x :: text) = String.utf8EncodeChar x ++ charBytes text := rfl

@[simp] theorem charBytes_append {text text' : List Char} :
    charBytes (text ++ text') = charBytes text ++ charBytes text' :=
  List.flatMap_append

theorem encode_eq_charBytes (s : String) : encode s = charBytes s.toList := rfl

theorem utf8EncodeChar_ascii (h : x.toNat < 0x80) :
    String.utf8EncodeChar x = [UInt8.ofNat x.toNat] := by
  simp only [String.utf8EncodeChar, Char.toNat_val]
  rw [if_pos (by omega)]

theorem Sequence.le_of_mem (h : Sequence bytes x) (hx : 0x80 ≤ x.toNat) {b : UInt8}
    (hb : b ∈ bytes) : 0x80 ≤ b.toNat := by
  cases h with
  | one ha hone => omega
  | two hlow _ hsecond _ =>
      have hleast := hsecond.least
      simp only [List.mem_cons, List.not_mem_nil, or_false] at hb
      rcases hb with rfl | rfl <;> omega
  | three hlow _ hsecond hc _ =>
      have hleast := hsecond.least
      rw [isContinuation_iff] at hc
      simp only [List.mem_cons, List.not_mem_nil, or_false] at hb
      rcases hb with rfl | rfl | rfl <;> omega
  | four hlow _ hsecond hc hd _ =>
      have hleast := hsecond.least
      rw [isContinuation_iff] at hc hd
      simp only [List.mem_cons, List.not_mem_nil, or_false] at hb
      rcases hb with rfl | rfl | rfl | rfl <;> omega

end SearchGateway.Text.Utf8
