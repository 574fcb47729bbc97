import SearchGateway.Proofs.Json.Grammar
import SearchGateway.Proofs.Json.Shortest

/-!
# The texts of a value are read as the value

Every text of a value with exact numbers is read as that value with sorted fields, as long as it
nests less deep than the reader goes (`TextOf.readValue_eq`). The induction is on the text; fuel for
three steps a byte is enough.
-/

namespace SearchGateway.Json

open Text.Utf8 (charBytes charBytes_append charBytes_cons)

variable {v : Json} {vs seen : List Json} {fs fields : List (String × Json)} {k : String}
  {w w' t u key bs rest : Bytes} {b : UInt8} {fuel depth : Nat}

/-! ## Tokens -/

theorem skipGap_token (hw : Gap w) (hb : isGap b = false) : skipGap (w ++ b :: bs) = b :: bs := by
  rw [skipGap, List.dropWhile_append_of_pos hw, List.dropWhile_cons_of_neg (by simp [hb])]

theorem readValue_bracket (hw : Gap w) : readValue (fuel + 1) depth (w ++ 0x5B :: bs) =
    if depth ≤ 1 then .error ⟨.tooDeep, bs.length⟩ else readItems fuel (depth - 1) none bs := by
  rw [readValue, skipGap_token hw (by decide)]
  rfl

theorem readValue_brace (hw : Gap w) : readValue (fuel + 1) depth (w ++ 0x7B :: bs) =
    if depth ≤ 1 then .error ⟨.tooDeep, bs.length⟩ else readFields fuel (depth - 1) none bs := by
  rw [readValue, skipGap_token hw (by decide)]
  rfl

theorem readValue_minus (hw : Gap w) :
    readValue (fuel + 1) depth (w ++ 0x2D :: bs) = readNumber true bs := by
  rw [readValue, skipGap_token hw (by decide)]
  rfl

theorem readValue_digit (hw : Gap w) {d : Nat} (hb : digitOf? b = some d) :
    readValue (fuel + 1) depth (w ++ b :: bs) = readNumber false (b :: bs) := by
  have hne {c : UInt8} (hc : digitOf? c = none) : b ≠ c := by
    rintro rfl
    cases hb.symm.trans hc
  have hgap : isGap b = false := by
    simp [isGap, hne (c := 0x20) (by decide), hne (c := 0x0A) (by decide),
      hne (c := 0x09) (by decide), hne (c := 0x0D) (by decide)]
  rw [readValue, skipGap_token hw hgap]
  simp [hb, hne (c := 0x6E) (by decide), hne (c := 0x74) (by decide),
    hne (c := 0x66) (by decide), hne (c := 0x2D) (by decide)]

theorem readItems_close {seen : Option (List Json)} (hw : Gap w) :
    readItems (fuel + 1) depth seen (w ++ 0x5D :: bs) =
      .ok (.array (seen.getD []).reverse, bs) := by
  rw [readItems, skipGap_token hw (by decide)]
  rfl

theorem readFields_close {seen : Option (List (String × Json))} (hw : Gap w) :
    readFields (fuel + 1) depth seen (w ++ 0x7D :: bs) = .ok (.object (seen.getD []), bs) := by
  rw [readFields, skipGap_token hw (by decide)]
  rfl

theorem readFields_first (hw : Gap w) :
    readFields (fuel + 1) depth none (w ++ 0x22 :: bs) = readField fuel depth [] bs := by
  rw [readFields, skipGap_token hw (by decide)]
  rfl

theorem readFields_comma (hw : Gap w) (hw' : Gap w') :
    readFields (fuel + 1) depth (some fields) (w ++ 0x2C :: (w' ++ 0x22 :: bs)) =
      readField fuel depth fields bs := by
  rw [readFields, skipGap_token hw (by decide)]
  simp [skipGap_token hw' (b := 0x22) (by decide)]

theorem readValue_string (hw : Gap w) {s : String} (ht : CharsText s.toList t) :
    readValue (fuel + 1) depth (w ++ 0x22 :: (t ++ 0x22 :: rest)) = .ok (.string s, rest) := by
  have hdigit : digitOf? 0x22 = none := by decide
  rw [readValue, skipGap_token hw (by decide)]
  simp [hdigit, ht.readString_eq]

/-! ## Leaves -/

theorem readValue_int {n : Int} (hw : Gap w) (hn : IsInt64 n) (hrest : Ended rest) :
    readValue (fuel + 1) depth (w ++ (charBytes (spellInt n) ++ rest)) = .ok (.int n, rest) := by
  obtain ⟨hmin, hmax⟩ := hn
  by_cases hneg : n < 0
  · have hvalue : exactInt? true n.natAbs = some n := by
      have hrange : 0 < n.natAbs ∧ n.natAbs ≤ Nat.pow 2 63 := by omega
      have habs : -(n.natAbs : Int) = n := by omega
      simp only [exactInt?, if_true, hrange, and_self, habs]
    have hpow : Nat.pow 2 63 < Nat.pow 2 64 := by decide
    rw [spellInt, if_pos hneg, charBytes_append, List.append_assoc]
    exact (readValue_minus hw).trans (readNumber_digits (by omega) hvalue hrest)
  · have hvalue : exactInt? false n.natAbs = some n := by
      have habs : (n.natAbs : Int) = n := by omega
      simp [exactInt?, habs]
    obtain ⟨c, cs, hcs⟩ := List.exists_cons_of_ne_nil
      (Nat.toDigits_ne_nil (b := 10) (n := n.natAbs))
    have hc : c.isDigit :=
      Nat.isDigit_of_mem_toDigits (b := 10) (n := n.natAbs) (by decide) (by decide) (by simp [hcs])
    have hread := readNumber_digits (n := n.natAbs) (by omega) hvalue hrest
    obtain ⟨hbytes, hdigit⟩ := utf8EncodeChar_digit hc
    rw [hcs, charBytes_cons, hbytes] at hread
    rw [spellInt, if_neg hneg, List.nil_append, hcs, charBytes_cons, hbytes]
    exact (readValue_digit hw hdigit).trans hread

theorem readValue_leaf (hv : v.nesting = 0) (hs : ∀ s, v ≠ .string s) (hexact : v.IsExact)
    (hw : Gap w) (hrest : Ended rest) :
    readValue (fuel + 1) depth (w ++ (charBytes (spellLeaf v) ++ rest)) = .ok (v, rest) := by
  match v with
  | .null =>
      have htext : charBytes (spellLeaf .null) ++ rest = 0x6E :: 0x75 :: 0x6C :: 0x6C :: rest := rfl
      rw [htext, readValue, skipGap_token hw (by decide)]
      rfl
  | .bool true =>
      have htext : charBytes (spellLeaf (.bool true)) ++ rest =
        0x74 :: 0x72 :: 0x75 :: 0x65 :: rest := rfl
      rw [htext, readValue, skipGap_token hw (by decide)]
      rfl
  | .bool false =>
      have htext : charBytes (spellLeaf (.bool false)) ++ rest =
        0x66 :: 0x61 :: 0x6C :: 0x73 :: 0x65 :: rest := rfl
      rw [htext, readValue, skipGap_token hw (by decide)]
      rfl
  | .int n => exact readValue_int hw hexact hrest
  | .float x => exact hexact.elim
  | .string s => exact absurd rfl (hs s)
  | .array items => simp [nesting] at hv
  | .object fields => simp [nesting] at hv

/-! ## Where texts begin -/

theorem isNumeral_of_isMark {c : Char} (hc : Binary64.IsMark c) :
    ∀ b ∈ String.utf8EncodeChar c, isNumeral b := by
  rcases hc with hc | rfl | rfl | rfl | rfl
  · obtain ⟨hbytes, hdigit⟩ := utf8EncodeChar_digit hc
    rw [hbytes]
    simpa using isNumeral_of_digitOf? hdigit
  all_goals exact List.all_eq_true.1 (by decide)

theorem numerals_text (x : Binary64) : ∀ b ∈ charBytes x.text, isNumeral b := by
  intro b hb
  obtain ⟨c, hc, hb⟩ := List.mem_flatMap.1 hb
  exact isNumeral_of_isMark (Binary64.mem_text hc) b hb

theorem numerals_spellInt (n : Int) : ∀ b ∈ charBytes (spellInt n), isNumeral b := by
  intro b hb
  obtain ⟨c, hc, hb⟩ := List.mem_flatMap.1 hb
  refine isNumeral_of_isMark ?_ b hb
  rcases List.mem_append.1 hc with hc | hc
  · split at hc
    · rw [List.mem_singleton.1 hc]
      simp [Binary64.IsMark]
    · cases hc
  · exact Binary64.isMark_toDigits hc

theorem ne_of_isNumeral (hb : isNumeral b) {c : UInt8} (hc : isNumeral c = false) : b ≠ c := by
  rintro rfl
  cases hb.symm.trans hc

theorem not_gap_of_isNumeral (hb : isNumeral b) : isGap b = false := by
  have hne {c : UInt8} (hc : isNumeral c = false) := ne_of_isNumeral hb hc
  simp [isGap, hne (c := 0x20) (by decide), hne (c := 0x0A) (by decide),
    hne (c := 0x09) (by decide), hne (c := 0x0D) (by decide)]

theorem charBytes_ne_nil {cs : List Char} (h : cs ≠ []) : charBytes cs ≠ [] := by
  obtain ⟨c, cs, rfl⟩ := List.exists_cons_of_ne_nil h
  simp [charBytes_cons]

/-- A byte that a text of the value may begin with: neither a blank nor a closing bracket, and a
quote for a string only. -/
structure MayBegin (v : Json) (b : UInt8) : Prop where
  token : isGap b = false
  item : b ≠ 0x5D
  quote : b = 0x22 → ∃ s, v = .string s

theorem MayBegin.of_ne (h : isGap b = false ∧ b ≠ 0x5D ∧ b ≠ 0x22) : MayBegin v b :=
  ⟨h.1, h.2.1, fun hquote => absurd hquote h.2.2⟩

theorem head_of_numerals (hne : t ≠ []) (h : ∀ b ∈ t, isNumeral b) :
    ∃ b t', t = b :: t' ∧ MayBegin v b := by
  obtain ⟨b, t', rfl⟩ := List.exists_cons_of_ne_nil hne
  have hb := h b List.mem_cons_self
  exact ⟨b, t', rfl, .of_ne ⟨not_gap_of_isNumeral hb, ne_of_isNumeral hb (by decide),
    ne_of_isNumeral hb (by decide)⟩⟩

theorem TextOf.head (h : TextOf v t) : ∃ b t', t = b :: t' ∧ MayBegin v b := by
  cases h with
  | string ht => exact ⟨0x22, _, rfl, by decide, by decide, fun _ => ⟨_, rfl⟩⟩
  | noItems hw => exact ⟨0x5B, _, rfl, .of_ne (by decide)⟩
  | items hw hv hvs => exact ⟨0x5B, _, rfl, .of_ne (by decide)⟩
  | noFields hw => exact ⟨0x7B, _, rfl, .of_ne (by decide)⟩
  | fields hw hk hw' hv hfs => exact ⟨0x7B, _, rfl, .of_ne (by decide)⟩
  | leaf hv hs =>
      match v with
      | .null => exact ⟨0x6E, _, rfl, .of_ne (by decide)⟩
      | .bool true => exact ⟨0x74, _, rfl, .of_ne (by decide)⟩
      | .bool false => exact ⟨0x66, _, rfl, .of_ne (by decide)⟩
      | .int n =>
          exact head_of_numerals (charBytes_ne_nil (by simp [spellLeaf, spellInt]))
            (numerals_spellInt n)
      | .float x => exact head_of_numerals (charBytes_ne_nil x.text_ne_nil) (numerals_text x)
      | .string s => exact absurd rfl (hs s)
      | .array vs => simp [nesting] at hv
      | .object fs => simp [nesting] at hv

theorem readItems_first (hw : Gap w) (hv : TextOf v t) :
    readItems (fuel + 1) depth none (w ++ (t ++ bs)) = readItem fuel depth [] (t ++ bs) := by
  obtain ⟨b, t', rfl, hb⟩ := hv.head
  rw [List.cons_append, readItems, skipGap_token hw hb.token]
  simp [hb.item]

theorem readItems_comma (hw : Gap w) (hw' : Gap w') (hv : TextOf v t) :
    readItems (fuel + 1) depth (some seen) (w ++ 0x2C :: (w' ++ (t ++ bs))) =
      readItem fuel depth seen (t ++ bs) := by
  obtain ⟨b, t', rfl, hb⟩ := hv.head
  rw [readItems, skipGap_token hw (by decide)]
  simp [skipGap_token hw' hb.token, hb.item]

theorem Gap.ended (hw : Gap w) (hb : isNumeral b = false) : Ended (w ++ b :: bs) := by
  cases w with
  | nil => exact ended_cons.2 hb
  | cons c w =>
      refine ended_cons.2 (Bool.eq_false_iff.2 fun hc => ?_)
      have := not_gap_of_isNumeral hc
      simp [hw c List.mem_cons_self] at this

theorem TextOfItems.ended (h : TextOfItems vs u) (rest : Bytes) : Ended (u ++ rest) := by
  cases h with
  | nil hw | cons hw _ _ _ =>
      rw [List.append_assoc]
      exact hw.ended (by decide)

theorem TextOfFields.ended (h : TextOfFields fs u) (rest : Bytes) : Ended (u ++ rest) := by
  cases h with
  | nil hw | cons hw _ _ _ _ _ =>
      rw [List.append_assoc]
      exact hw.ended (by decide)

/-! ## Reading values -/

theorem ordered_leaf (hv : v.nesting = 0) : v.ordered = v := by
  match v with
  | .null | .bool _ | .int _ | .float _ | .string _ => rfl
  | .array items => simp [nesting] at hv
  | .object fields => simp [nesting] at hv

theorem ordered_object : (object fs).ordered =
    .object ((orderedFields fs).foldl (fun es e => Keyed.insertEntry e.1 e.2 es) []) := by
  rw [ordered, ofKeyed, Keyed.ofList, Keyed.entries_foldl_insert]
  rfl

theorem readItem_eq (h : readValue fuel depth bs = .ok (v, rest)) :
    readItem (fuel + 1) depth seen bs = readItems fuel depth (some (v :: seen)) rest := by
  rw [readItem, h]

theorem readField_eq (hk : KeyText k key) (h : readValue fuel depth bs = .ok (v, rest)) :
    readField (fuel + 1) depth fields (key ++ bs) =
      readFields fuel depth (some (Keyed.insertEntry k v fields)) rest := by
  obtain ⟨ht, hw⟩ := hk
  rw [List.append_assoc, List.cons_append, List.append_assoc, List.singleton_append, readField,
    ht.readString_eq]
  simp [skipGap_token hw (b := 0x3A) (by decide), h]

mutual

theorem TextOf.readValue_eq {v t w rest fuel depth} (h : TextOf v t) (hexact : v.IsExact)
    (hdepth : v.nesting < depth) (hw : Gap w) (hrest : Ended rest) (hfuel : 3 * t.length ≤ fuel) :
    readValue fuel depth (w ++ (t ++ rest)) = .ok (v.ordered, rest) := by
  match h with
  | .leaf hv hs =>
      obtain ⟨b, t', ht, -⟩ := TextOf.head (.leaf hv hs)
      obtain ⟨fuel, rfl⟩ : ∃ n, fuel = n + 1 := ⟨fuel - 1, by simp [ht] at hfuel; omega⟩
      rw [readValue_leaf hv hs hexact hw hrest, ordered_leaf hv]
  | .string ht =>
      obtain ⟨fuel, rfl⟩ : ∃ n, fuel = n + 1 := ⟨fuel - 1, by simp at hfuel; omega⟩
      rw [List.cons_append, List.append_assoc]
      exact readValue_string hw ht
  | .noItems hgap =>
      obtain ⟨fuel, rfl⟩ : ∃ n, fuel = n + 2 := ⟨fuel - 2, by simp at hfuel; omega⟩
      simp only [nesting, nestingItems] at hdepth
      rw [List.cons_append, List.append_assoc, readValue_bracket hw, if_neg (by omega)]
      exact readItems_close hgap
  | .items hgap hv hvs =>
      simp only [List.length_cons, List.length_append] at hfuel
      -- One step each for the bracket, the list behind it and its first item.
      obtain ⟨fuel, rfl⟩ : ∃ n, fuel = n + 3 := ⟨fuel - 3, by omega⟩
      simp only [nesting, nestingItems] at hdepth
      rw [List.cons_append, List.append_assoc, List.append_assoc, readValue_bracket hw,
        if_neg (by omega), readItems_first hgap hv]
      refine (readItem_eq (TextOf.readValue_eq hv hexact.1 (by omega) gap_nil (hvs.ended rest)
        (by omega))).trans ?_
      rw [TextOfItems.readItems_eq hvs hexact.2 (by omega) (by omega)]
      rfl
  | .noFields hgap =>
      obtain ⟨fuel, rfl⟩ : ∃ n, fuel = n + 2 := ⟨fuel - 2, by simp at hfuel; omega⟩
      simp only [nesting, nestingFields] at hdepth
      rw [List.cons_append, List.append_assoc, readValue_brace hw, if_neg (by omega)]
      exact readFields_close hgap
  | .fields hgap hk hgap' hv hfs =>
      simp only [List.length_cons, List.length_append] at hfuel
      obtain ⟨fuel, rfl⟩ : ∃ n, fuel = n + 3 := ⟨fuel - 3, by omega⟩
      simp only [nesting, nestingFields] at hdepth
      simp only [List.cons_append, List.append_assoc]
      rw [readValue_brace hw, if_neg (by omega), readFields_first hgap]
      refine (readField_eq hk (TextOf.readValue_eq hv hexact.1 (by omega) hgap' (hfs.ended rest)
        (by omega))).trans ?_
      rw [TextOfFields.readFields_eq hfs hexact.2 (by omega) (by omega), ordered_object]
      rfl

theorem TextOfItems.readItems_eq {vs u seen rest fuel depth} (h : TextOfItems vs u)
    (hexact : ExactItems vs) (hdepth : nestingItems vs < depth) (hfuel : 3 * u.length ≤ fuel) :
    readItems fuel depth (some seen) (u ++ rest) =
      .ok (.array (seen.reverse ++ orderedItems vs), rest) := by
  match h with
  | .nil hgap =>
      simp only [List.length_append, List.length_singleton] at hfuel
      obtain ⟨fuel, rfl⟩ : ∃ n, fuel = n + 1 := ⟨fuel - 1, by omega⟩
      rw [List.append_assoc]
      exact (readItems_close hgap).trans (by simp [orderedItems])
  | .cons hgap hgap' hv hvs =>
      simp only [List.length_cons, List.length_append] at hfuel
      obtain ⟨fuel, rfl⟩ : ∃ n, fuel = n + 2 := ⟨fuel - 2, by omega⟩
      simp only [nestingItems] at hdepth
      simp only [List.cons_append, List.append_assoc]
      rw [readItems_comma hgap hgap' hv]
      refine (readItem_eq (TextOf.readValue_eq hv hexact.1 (by omega) gap_nil (hvs.ended rest)
        (by omega))).trans ?_
      rw [TextOfItems.readItems_eq hvs hexact.2 (by omega) (by omega)]
      simp [orderedItems]

theorem TextOfFields.readFields_eq {fs u fields rest fuel depth} (h : TextOfFields fs u)
    (hexact : ExactFields fs) (hdepth : nestingFields fs < depth) (hfuel : 3 * u.length ≤ fuel) :
    readFields fuel depth (some fields) (u ++ rest) =
      .ok (.object ((orderedFields fs).foldl (fun es e => Keyed.insertEntry e.1 e.2 es) fields),
        rest) := by
  match h with
  | .nil hgap =>
      simp only [List.length_append, List.length_singleton] at hfuel
      obtain ⟨fuel, rfl⟩ : ∃ n, fuel = n + 1 := ⟨fuel - 1, by omega⟩
      rw [List.append_assoc]
      exact readFields_close hgap
  | .cons hgap hgap' hk hgap'' hv hfs =>
      simp only [List.length_cons, List.length_append] at hfuel
      obtain ⟨fuel, rfl⟩ : ∃ n, fuel = n + 2 := ⟨fuel - 2, by omega⟩
      simp only [nestingFields] at hdepth
      simp only [List.cons_append, List.append_assoc]
      rw [readFields_comma hgap hgap']
      refine (readField_eq hk (TextOf.readValue_eq hv hexact.1 (by omega) hgap'' (hfs.ended rest)
        (by omega))).trans ?_
      rw [TextOfFields.readFields_eq hfs hexact.2 (by omega) (by omega)]
      rfl

end

end SearchGateway.Json
