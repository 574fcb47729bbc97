import SearchGateway.Json.Quotation
import SearchGateway.Json.Writer
import SearchGateway.Proofs.Text.Utf8

/-!
# Strings are read as what they stand for

Between quotes a character is written by its bytes or by one of several escapes; the reader takes up
its bytes either way (`CharText.readQuoted_eq`). The writer has one of these texts for each
character (`charText_spellChar`).
-/

namespace SearchGateway.Json

open Text.Utf8 (charBytes)

/-! ## Texts between quotes -/

/-- The escapes of two bytes: what follows the backslash, and the character that is meant. -/
def shortEscapes : List (UInt8 × Char) :=
  [(0x22, '"'), (0x5C, '\\'), (0x2F, '/'), (0x62, '\x08'), (0x66, '\x0c'), (0x6E, '\n'),
    (0x72, '\r'), (0x74, '\t')]

/-- Four hexadecimal digits, of either case, of a number. -/
inductive FourDigits : Nat → Bytes → Prop where
  | intro {a b c d : UInt8} {a' b' c' d' : Nat} (ha : Text.hexByte? a = some a')
      (hb : Text.hexByte? b = some b') (hc : Text.hexByte? c = some c')
      (hd : Text.hexByte? d = some d') :
      FourDigits (((a' * 16 + b') * 16 + c') * 16 + d') [a, b, c, d]

/-- A text that stands for a character between quotes. -/
inductive CharText : Char → Bytes → Prop where
  | plain {c} (hquote : c ≠ '"') (hslash : c ≠ '\\') (hcontrol : 0x20 ≤ c.toNat) :
      CharText c (String.utf8EncodeChar c)
  | short {b c} (h : (b, c) ∈ shortEscapes) : CharText c [0x5C, b]
  | unicode {c t} (h : FourDigits c.toNat t) : CharText c (0x5C :: 0x75 :: t)
  | surrogates {c high low t u} (hhigh : 0xD800 ≤ high ∧ high ≤ 0xDBFF)
      (hlow : 0xDC00 ≤ low ∧ low ≤ 0xDFFF) (ht : FourDigits high t) (hu : FourDigits low u)
      (hc : c.toNat = (high - 0xD800) * 0x400 + (low - 0xDC00) + 0x10000) :
      CharText c (0x5C :: 0x75 :: (t ++ 0x5C :: 0x75 :: u))

/-- A text that stands for some characters between quotes. -/
inductive CharsText : List Char → Bytes → Prop where
  | nil : CharsText [] []
  | cons {c cs t u} (h : CharText c t) (hs : CharsText cs u) : CharsText (c :: cs) (t ++ u)

variable {seen rest after t : Bytes} {c : Char} {cs : List Char} {n : Nat}

/-! ## Steps of the reader -/

theorem readQuoted_escape {c : Char} (h : readEscape rest = .ok (c, after)) :
    readQuoted seen (0x5C :: rest) =
      readQuoted ((String.utf8EncodeChar c).reverse ++ seen) after := by
  rw [readQuoted, if_neg (by decide), if_pos (by decide)]
  split
  · rename_i e he
    rw [h] at he
    cases he
  · rename_i c' after' hread
    rw [h] at hread
    cases hread
    rfl

theorem readQuoted_plain {b : UInt8} (hquote : b ≠ 0x22) (hescape : b ≠ 0x5C)
    (hcontrol : 0x20 ≤ b.toNat) : readQuoted seen (b :: rest) = readQuoted (b :: seen) rest := by
  have hraw : ¬ b < 0x20 := by
    rw [UInt8.lt_iff_toNat_lt]
    exact Nat.not_lt.2 hcontrol
  rw [readQuoted]
  simp [hquote, hescape, hraw]

theorem readQuoted_bytes {bytes : Bytes}
    (h : ∀ b ∈ bytes, b ≠ 0x22 ∧ b ≠ 0x5C ∧ 0x20 ≤ b.toNat) :
    readQuoted seen (bytes ++ rest) = readQuoted (bytes.reverse ++ seen) rest := by
  induction bytes generalizing seen with
  | nil => rfl
  | cons b bytes ih =>
      obtain ⟨hquote, hescape, hcontrol⟩ := h b List.mem_cons_self
      rw [List.cons_append, readQuoted_plain hquote hescape hcontrol,
        ih fun b hb => h b (List.mem_cons_of_mem _ hb)]
      simp

theorem FourDigits.readHex_eq (h : FourDigits n t) : readHex (t ++ rest) = .ok (n, rest) := by
  obtain ⟨ha, hb, hc, hd⟩ := h
  simp only [List.cons_append, List.nil_append, readHex, ha, hb, hc, hd]

theorem readEscape_short {b : UInt8} (h : (b, c) ∈ shortEscapes) :
    readEscape (b :: rest) = .ok (c, rest) := by
  simp only [shortEscapes, List.mem_cons, Prod.mk.injEq, List.not_mem_nil, or_false] at h
  rcases h with ⟨rfl, rfl⟩ | ⟨rfl, rfl⟩ | ⟨rfl, rfl⟩ | ⟨rfl, rfl⟩ | ⟨rfl, rfl⟩ | ⟨rfl, rfl⟩ |
    ⟨rfl, rfl⟩ | ⟨rfl, rfl⟩ <;> rfl

theorem readEscape_unicode (h : FourDigits c.toNat t) :
    readEscape (0x75 :: (t ++ rest)) = .ok (c, rest) := by
  -- No character is half of a surrogate pair.
  have hscalar := Text.Utf8.toNat_scalar c
  simp only [readEscape, h.readHex_eq]
  rw [if_neg (by omega), if_neg (by omega), Char.ofNat_toNat]

theorem readEscape_surrogates {high low : Nat} {u : Bytes} (hhigh : 0xD800 ≤ high ∧ high ≤ 0xDBFF)
    (hlow : 0xDC00 ≤ low ∧ low ≤ 0xDFFF) (ht : FourDigits high t) (hu : FourDigits low u)
    (hc : c.toNat = (high - 0xD800) * 0x400 + (low - 0xDC00) + 0x10000) :
    readEscape (0x75 :: (t ++ 0x5C :: 0x75 :: (u ++ rest))) = .ok (c, rest) := by
  simp only [readEscape, ht.readHex_eq]
  rw [if_neg (by omega), if_pos hhigh]
  simp only [readLowSurrogate, hu.readHex_eq, hlow, and_self, if_true, ← hc, Char.ofNat_toNat]

/-! ## Characters -/

/-- Only quotes, backslashes and controls mean something to the reader. -/
theorem meaningless_of_mem (hquote : c ≠ '"') (hslash : c ≠ '\\')
    (hcontrol : 0x20 ≤ c.toNat) {b : UInt8} (hb : b ∈ String.utf8EncodeChar c) :
    b ≠ 0x22 ∧ b ≠ 0x5C ∧ 0x20 ≤ b.toNat := by
  rcases Nat.lt_or_ge c.toNat 0x80 with hascii | hbeyond
  · rw [Text.Utf8.utf8EncodeChar_ascii hascii, List.mem_singleton] at hb
    have hvalue : b.toNat = c.toNat := by
      rw [hb, UInt8.toNat_ofNat']
      omega
    have hchar {d : Char} (h : c ≠ d) : b.toNat ≠ d.toNat := fun heq =>
      h (Char.toNat_inj.1 (hvalue ▸ heq))
    exact ⟨fun heq => hchar hquote (heq ▸ rfl), fun heq => hchar hslash (heq ▸ rfl), by omega⟩
  · have hle := (Text.Utf8.sequence_utf8EncodeChar c).le_of_mem hbeyond hb
    refine ⟨?_, ?_, by omega⟩ <;> rintro rfl <;> exact absurd hle (by decide)

/-- The reader takes a text of a character for the bytes of the character. -/
theorem CharText.readQuoted_eq (h : CharText c t) : readQuoted seen (t ++ rest) =
    readQuoted ((String.utf8EncodeChar c).reverse ++ seen) rest := by
  cases h with
  | plain hquote hslash hcontrol =>
      exact readQuoted_bytes fun b hb => meaningless_of_mem hquote hslash hcontrol hb
  | short h => exact readQuoted_escape (readEscape_short h)
  | unicode h => exact readQuoted_escape (readEscape_unicode h)
  | surrogates hhigh hlow ht hu hc =>
      simp only [List.cons_append, List.append_assoc]
      exact readQuoted_escape (readEscape_surrogates hhigh hlow ht hu hc)

theorem CharsText.readQuoted_eq (h : CharsText cs t) : readQuoted seen (t ++ 0x22 :: rest) =
    .ok (seen.reverse ++ charBytes cs, rest) := by
  induction h generalizing seen with
  | nil =>
      rw [List.nil_append, readQuoted]
      simp
  | cons h hs ih =>
      rw [List.append_assoc, h.readQuoted_eq, ih]
      simp

/-- A string is read up to its closing quote. -/
theorem CharsText.readString_eq {s : String} (h : CharsText s.toList t) :
    readString (t ++ 0x22 :: rest) = .ok (s, rest) := by
  rw [readString, h.readQuoted_eq]
  simp only [List.reverse_nil, List.nil_append, ← Text.Utf8.encode_eq_charBytes,
    Text.Utf8.decode_encode]

/-! ## The writer's texts -/

theorem hexByte?_hexDigit {n : Nat} (h : n < 16) :
    Text.hexByte? (UInt8.ofNat (Text.hexDigit n).toNat) = some n := by
  revert n
  decide

theorem toNat_hexDigit_lt {n : Nat} (h : n < 16) : (Text.hexDigit n).toNat < 0x80 := by
  revert n
  decide

theorem fourDigits_control (h : n < 0x20) :
    FourDigits n [0x30, 0x30, UInt8.ofNat (Text.hexDigit (n / 16)).toNat,
      UInt8.ofNat (Text.hexDigit (n % 16)).toNat] := by
  have hzero : Text.hexByte? 0x30 = some 0 := rfl
  have hdigits := FourDigits.intro hzero hzero (hexByte?_hexDigit (show n / 16 < 16 by omega))
    (hexByte?_hexDigit (show n % 16 < 16 by omega))
  rwa [show ((0 * 16 + 0) * 16 + n / 16) * 16 + n % 16 = n by omega] at hdigits

theorem charText_spellChar (c : Char) : CharText c (charBytes (spellChar c)) := by
  unfold spellChar
  split_ifs with hquote hslash hline hreturn htab hback hfeed hcontrol
  · subst hquote
    exact .short (by decide)
  · subst hslash
    exact .short (by decide)
  · subst hline
    exact .short (by decide)
  · subst hreturn
    exact .short (by decide)
  · subst htab
    exact .short (by decide)
  · subst hback
    exact .short (by decide)
  · subst hfeed
    exact .short (by decide)
  · have hbytes : charBytes ['\\', 'u', '0', '0', Text.hexDigit (c.toNat / 16),
          Text.hexDigit (c.toNat % 16)] =
        [0x5C, 0x75, 0x30, 0x30, UInt8.ofNat (Text.hexDigit (c.toNat / 16)).toNat,
          UInt8.ofNat (Text.hexDigit (c.toNat % 16)).toNat] := by
      simp only [Text.Utf8.charBytes_cons, Text.Utf8.charBytes_nil,
        Text.Utf8.utf8EncodeChar_ascii (toNat_hexDigit_lt (show c.toNat / 16 < 16 by omega)),
        Text.Utf8.utf8EncodeChar_ascii (toNat_hexDigit_lt (show c.toNat % 16 < 16 by omega))]
      rfl
    rw [hbytes]
    exact .unicode (fourDigits_control hcontrol)
  · rw [Text.Utf8.charBytes_cons, Text.Utf8.charBytes_nil, List.append_nil]
    exact .plain hquote hslash (Nat.not_lt.1 hcontrol)

theorem charsText_spelled (text : List Char) :
    CharsText text (charBytes (text.flatMap spellChar)) := by
  induction text with
  | nil => exact .nil
  | cons c text ih =>
      rw [List.flatMap_cons, Text.Utf8.charBytes_append]
      exact .cons (charText_spellChar c) ih

theorem charBytes_spellString (s : String) :
    charBytes (spellString s) = 0x22 :: (charBytes (s.toList.flatMap spellChar) ++ [0x22]) := by
  simp only [spellString, Text.Utf8.charBytes_cons, Text.Utf8.charBytes_append]
  rfl

end SearchGateway.Json
