import SearchGateway.Json.Fault
import SearchGateway.Text.Numeral

/-!
# Strings in JSON

A string is read as bytes, with its escapes resolved, and has to be UTF-8. Escapes above U+FFFF are
pairs of surrogates.
-/

namespace SearchGateway.Json

def readHex : Bytes → Except Fault (Nat × Bytes)
  | a :: b :: c :: d :: rest =>
    match Text.hexByte? a, Text.hexByte? b, Text.hexByte? c, Text.hexByte? d with
    | some a, some b, some c, some d => .ok (((a * 16 + b) * 16 + c) * 16 + d, rest)
    -- All four bytes are taken before they are looked at, so the fault shows behind them.
    | _, _, _, _ => .error ⟨.badEscape, rest.length⟩
  | _ => .error ⟨.endInString, 0⟩

/-- Reads the second half of a surrogate pair whose first half is `high`. -/
def readLowSurrogate (high : Nat) : Bytes → Except Fault (Char × Bytes)
  | [] => .error ⟨.endInString, 0⟩
  | 0x5C :: [] => .error ⟨.endInString, 0⟩
  | 0x5C :: 0x75 :: rest =>
    match readHex rest with
    | .error e => .error e
    | .ok (low, rest) =>
      if 0xDC00 ≤ low ∧ low ≤ 0xDFFF then
        .ok (Char.ofNat ((high - 0xD800) * 0x400 + (low - 0xDC00) + 0x10000), rest)
      else .error ⟨.loneSurrogate, rest.length⟩
  | 0x5C :: _ :: rest => .error ⟨.halfSurrogate, rest.length⟩
  | _ :: rest => .error ⟨.halfSurrogate, rest.length⟩

/-- Reads an escape after its backslash. -/
def readEscape : Bytes → Except Fault (Char × Bytes)
  | [] => .error ⟨.endInString, 0⟩
  | 0x22 :: rest => .ok ('"', rest)
  | 0x5C :: rest => .ok ('\\', rest)
  | 0x2F :: rest => .ok ('/', rest)
  | 0x62 :: rest => .ok ('\x08', rest)
  | 0x66 :: rest => .ok ('\x0c', rest)
  | 0x6E :: rest => .ok ('\n', rest)
  | 0x72 :: rest => .ok ('\r', rest)
  | 0x74 :: rest => .ok ('\t', rest)
  | 0x75 :: rest =>
    match readHex rest with
    | .error e => .error e
    | .ok (n, rest) =>
      if 0xDC00 ≤ n ∧ n ≤ 0xDFFF then .error ⟨.loneSurrogate, rest.length⟩
      else if 0xD800 ≤ n ∧ n ≤ 0xDBFF then readLowSurrogate n rest
      else .ok (Char.ofNat n, rest)
  | _ :: rest => .error ⟨.badEscape, rest.length⟩

theorem readHex_length {bs rest : Bytes} {n : Nat} (h : readHex bs = .ok (n, rest)) :
    rest.length < bs.length := by
  unfold readHex at h
  split at h
  · split at h
    · simp only [Except.ok.injEq, Prod.mk.injEq] at h
      obtain ⟨-, rfl⟩ := h
      simp
      omega
    · simp at h
  · simp at h

theorem readLowSurrogate_length {high : Nat} {bs rest : Bytes} {c : Char}
    (h : readLowSurrogate high bs = .ok (c, rest)) : rest.length < bs.length := by
  unfold readLowSurrogate at h
  split at h <;> try simp at h
  split at h
  · simp at h
  · rename_i hx
    have := readHex_length hx
    split at h
    · simp only [Except.ok.injEq, Prod.mk.injEq] at h
      obtain ⟨-, rfl⟩ := h
      simp
      omega
    · simp at h

theorem readEscape_length {bs rest : Bytes} {c : Char} (h : readEscape bs = .ok (c, rest)) :
    rest.length < bs.length := by
  unfold readEscape at h
  split at h
  case h_10 =>
    split at h
    · simp at h
    · rename_i hx
      have := readHex_length hx
      split at h
      · simp at h
      · split at h
        · have := readLowSurrogate_length h
          simp
          omega
        · simp only [Except.ok.injEq, Prod.mk.injEq] at h
          obtain ⟨-, rfl⟩ := h
          simp
          omega
  all_goals simp at h
  all_goals (obtain ⟨-, rfl⟩ := h; simp)

/-- Reads up to the closing quote; gives the bytes that the string stands for. -/
def readQuoted (seen : Bytes) : Bytes → Except Fault (Bytes × Bytes)
  | [] => .error ⟨.endInString, 0⟩
  | b :: rest =>
    if b == 0x22 then .ok (seen.reverse, rest)
    else if b == 0x5C then
      match h : readEscape rest with
      | .error e => .error e
      | .ok (c, after) =>
        have := readEscape_length h
        readQuoted ((String.utf8EncodeChar c).reverse ++ seen) after
    else if b < 0x20 then .error ⟨.rawControl, rest.length⟩
    else readQuoted (b :: seen) rest
termination_by bs => bs.length

/-- Reads a string after its opening quote. -/
def readString (bs : Bytes) : Except Fault (String × Bytes) :=
  match readQuoted [] bs with
  | .error e => .error e
  | .ok (content, rest) =>
    match Text.Utf8.decode content with
    | .ok s => .ok (s, rest)
    | .error _ =>
      -- The fault is placed in the text as it is written, where an escape is longer than its bytes.
      match Text.Utf8.scalars (bs.take (bs.length - rest.length - 1)) with
      | .error offset => .error ⟨.badUtf8, bs.length - (offset + 1)⟩
      | .ok _ => .error ⟨.badUtf8, rest.length⟩

end SearchGateway.Json
