import SearchGateway.Http.Form
import SearchGateway.Proofs.Text.Utf8

/-!
# Percent escapes

A piece of a path spells bytes: an escape stands for the byte that it names, any other character for
its own bytes (`Spells`). Decoding a piece yields the bytes that it spells
(`Spells.percentDecode_eq`), and every text is spelled by its escaped form (`spells_percentEncode`).
-/

namespace SearchGateway.Http

open Text.Utf8 (charBytes)

/-- The characters that have a meaning of their own in a path. -/
def pathMarks : List Char := ['%', '/', '?', '#']

/-- The characters of a piece of a path spell these bytes. -/
inductive Spells : List Char → Bytes → Prop where
  | nil : Spells [] []
  | plain {c piece bytes} :
      c ∉ pathMarks → Spells piece bytes → Spells (c :: piece) (String.utf8EncodeChar c ++ bytes)
  | escape {a b high low piece bytes} :
      Text.hexadecimal? a = some high → Text.hexadecimal? b = some low → Spells piece bytes →
        Spells ('%' :: a :: b :: piece) (UInt8.ofNat (high * 16 + low) :: bytes)

variable {a c : Char} {n : Nat} {piece : List Char} {bytes rest : Bytes} {text : String}

/-! ## Decoding -/

theorem percentDecode_cons {b : UInt8} (h : b ≠ 0x25) :
    percentDecode (b :: rest) = b :: percentDecode rest := by
  rw [percentDecode]
  rintro a b' rest' rfl
  exact absurd rfl h

theorem percentDecode_append (h : ∀ b ∈ bytes, b ≠ 0x25) :
    percentDecode (bytes ++ rest) = bytes ++ percentDecode rest := by
  induction bytes with
  | nil => rfl
  | cons b bytes ih =>
      obtain ⟨hb, hbytes⟩ := List.forall_mem_cons.1 h
      rw [List.cons_append, percentDecode_cons hb, ih hbytes, List.cons_append]

theorem toNat_eq_of_mem {b : UInt8} (hb : b ∈ String.utf8EncodeChar c) (hascii : b.toNat < 0x80) :
    c.toNat = b.toNat := by
  by_cases hc : c.toNat < 0x80
  · rw [Text.Utf8.utf8EncodeChar_ascii hc, List.mem_singleton] at hb
    rw [hb, UInt8.toNat_ofNat']
    omega
  · have hle := (Text.Utf8.sequence_utf8EncodeChar c).le_of_mem (by omega) hb
    omega

theorem ne_percent (h : c ∉ pathMarks) : c ≠ '%' := by
  rintro rfl
  exact h (by decide)

theorem percent_not_mem (h : c ≠ '%') : ∀ b ∈ String.utf8EncodeChar c, b ≠ 0x25 := by
  rintro b hb rfl
  exact h (Char.toNat_inj.1 (toNat_eq_of_mem hb (by decide)))

theorem hexByte?_ofNat (h : Text.hexadecimal? a = some n) :
    a.toNat < 0x80 ∧ Text.hexByte? (UInt8.ofNat a.toNat) = some n := by
  have hascii : a.toNat < 0x80 := by
    simp only [Text.hexadecimal?, Char.le_def, UInt32.le_iff_toNat_le, Char.toNat_val] at h
    split_ifs at h <;> simp_all <;> omega
  refine ⟨hascii, ?_⟩
  rw [Text.hexByte?, UInt8.toNat_ofNat', Nat.mod_eq_of_lt (by omega), Char.ofNat_toNat, h]

/-- A piece is decoded to the bytes that it spells. -/
theorem Spells.percentDecode_eq (h : Spells piece bytes) :
    percentDecode (charBytes piece) = bytes := by
  induction h with
  | nil => rfl
  | plain hc _ ih =>
      rw [Text.Utf8.charBytes_cons, percentDecode_append (percent_not_mem (ne_percent hc)), ih]
  | @escape a b high low piece bytes ha hb _ ih =>
      obtain ⟨haAscii, hahex⟩ := hexByte?_ofNat ha
      obtain ⟨hbAscii, hbhex⟩ := hexByte?_ofNat hb
      have hbytes : charBytes ('%' :: a :: b :: piece) =
          0x25 :: UInt8.ofNat a.toNat :: UInt8.ofNat b.toNat :: charBytes piece := by
        simp only [Text.Utf8.charBytes_cons, Text.Utf8.utf8EncodeChar_ascii haAscii,
          Text.Utf8.utf8EncodeChar_ascii hbAscii, List.singleton_append]
        rfl
      rw [hbytes, percentDecode, hahex, hbhex]
      exact congrArg _ ih

/-! ## Pieces that spell a text -/

theorem Spells.slash_not_mem (h : Spells piece bytes) : '/' ∉ piece := by
  induction h with
  | nil => exact List.not_mem_nil
  | plain hc _ ih =>
      rw [List.mem_cons, not_or]
      exact ⟨fun heq => hc (heq ▸ by decide), ih⟩
  | escape ha hb _ ih =>
      have hslash : Text.hexadecimal? '/' = none := by decide
      simp only [List.mem_cons, not_or]
      refine ⟨by decide, fun heq => ?_, fun heq => ?_, ih⟩
      · rw [← heq, hslash] at ha
        cases ha
      · rw [← heq, hslash] at hb
        cases hb

theorem Spells.ne_nil (h : Spells piece (Text.Utf8.encode text)) (hne : text ≠ "") :
    piece ≠ [] := by
  rintro rfl
  generalize hbytes : Text.Utf8.encode text = bytes at h
  cases h
  have htext : Text.Utf8.decode? [] = some text := Text.Utf8.decode?_eq_some_iff.2 hbytes
  have hempty : Text.Utf8.decode? [] = some "" := Text.Utf8.decode?_eq_some_iff.2 rfl
  exact hne (Option.some.inj (htext.symm.trans hempty))

theorem Spells.head?_eq (h : Spells piece (Text.Utf8.encode text)) (hc : c ≠ '%')
    (hascii : c.toNat < 0x80) (hhead : piece.head? = some c) : text.toList.head? = some c := by
  obtain ⟨piece, rfl⟩ := List.head?_eq_some_iff.1 hhead
  generalize hbytes : Text.Utf8.encode text = bytes at h
  cases h with
  | escape => exact absurd rfl hc
  | plain =>
      rw [Text.Utf8.utf8EncodeChar_ascii hascii, Text.Utf8.encode_eq_charBytes] at hbytes
      have hlt : (UInt8.ofNat c.toNat).toNat < 0x80 := by
        rw [UInt8.toNat_ofNat']
        omega
      cases htext : text.toList with
      | nil => simp [htext] at hbytes
      | cons d rest =>
          -- the first byte belongs to the first character
          have hd : UInt8.ofNat c.toNat ∈ String.utf8EncodeChar d := by
            rw [htext, Text.Utf8.charBytes_cons] at hbytes
            cases hfirst : String.utf8EncodeChar d with
            | nil => exact absurd hfirst (by simp)
            | cons b bytes =>
                rw [hfirst] at hbytes
                cases hbytes
                exact List.mem_cons_self
          have hvalue := toNat_eq_of_mem hd hlt
          rw [UInt8.toNat_ofNat', Nat.mod_eq_of_lt (by omega)] at hvalue
          rw [List.head?_cons, Char.toNat_inj.1 hvalue]

/-! ## The escaped form -/

/-- The bytes of ASCII that need no escape: letters, digits and four marks. -/
def isUnreserved (b : UInt8) : Bool :=
  (Char.ofNat b.toNat).isAlphanum || Char.ofNat b.toNat ∈ ['-', '.', '_', '~']

def escapedByte (b : UInt8) : List Char :=
  if isUnreserved b then [Char.ofNat b.toNat]
  else ['%', Text.hexDigit (b.toNat / 16), Text.hexDigit (b.toNat % 16)]

def percentEncode (text : String) : String :=
  String.ofList ((Text.Utf8.encode text).flatMap escapedByte)

theorem hexadecimal?_hexDigit : ∀ n < 16, Text.hexadecimal? (Text.hexDigit n) = some n := by
  decide

theorem plain_of_isUnreserved : ∀ n < 256, isUnreserved (UInt8.ofNat n) →
    n < 0x80 ∧ Char.ofNat n ∉ pathMarks := by
  decide +kernel

theorem spells_escaped (bytes : Bytes) : Spells (bytes.flatMap escapedByte) bytes := by
  induction bytes with
  | nil => exact .nil
  | cons b bytes ih =>
      rw [List.flatMap_cons, escapedByte]
      split
      · rename_i hplain
        obtain ⟨hascii, hmark⟩ := plain_of_isUnreserved b.toNat b.toNat_lt (by simpa using hplain)
        have hbyte : String.utf8EncodeChar (Char.ofNat b.toNat) = [b] := by
          have hchar : (Char.ofNat b.toNat).toNat = b.toNat :=
            Text.Utf8.toNat_ofNat (.inl (by omega))
          rw [Text.Utf8.utf8EncodeChar_ascii (by omega), hchar, UInt8.ofNat_toNat]
        have hspells := Spells.plain hmark ih
        rw [hbyte] at hspells
        exact hspells
      · have hvalue : UInt8.ofNat (b.toNat / 16 * 16 + b.toNat % 16) = b := by
          rw [Nat.div_add_mod', UInt8.ofNat_toNat]
        have hlt := b.toNat_lt
        have hescape := Spells.escape (hexadecimal?_hexDigit (b.toNat / 16) (by omega))
          (hexadecimal?_hexDigit (b.toNat % 16) (by omega)) ih
        rw [hvalue] at hescape
        exact hescape

/-- Every text is spelled by its escaped form. -/
theorem spells_percentEncode (text : String) :
    Spells (percentEncode text).toList (Text.Utf8.encode text) := by
  simpa [percentEncode] using spells_escaped (Text.Utf8.encode text)

end SearchGateway.Http
