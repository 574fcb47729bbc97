import SearchGateway.Proofs.Json.Reading

/-!
# How deep a document may nest

A reader that gives a value back has not met one that nests too deep, whatever the numbers in it
are (`TextOf.nesting_lt_of_readValue`). So a document is read as its value or refused, by its depth
alone (`DocumentOf.read_eq`, `DocumentOf.read_deep`).
-/

namespace SearchGateway.Json

open Text.Utf8 (charBytes)

variable {v j : Json} {vs seen : List Json} {fs fields : List (String × Json)} {k : String}
  {w t key bs rest after : Bytes} {b : UInt8} {fuel depth : Nat}

/-! ## Values that nest too deep -/

theorem Leaves.of_append (hrest : Ended rest) (ht : ∀ b ∈ t, isNumeral b)
    (h : Leaves (t ++ rest) after) : Leaves after rest := by
  obtain ⟨used, heq, hused⟩ := h
  rcases List.append_eq_append_iff.1 heq with ⟨more, rfl, rfl⟩ | ⟨more, rfl, rfl⟩
  · cases more with
    | nil => exact leaves_refl _
    | cons b more =>
        have hb := hused b (by simp)
        rw [ended_cons.1 hrest] at hb
        cases hb
  · exact ⟨more, rfl, fun b hb => ht b (List.mem_append_right used hb)⟩

theorem leaves_of_readValue (hne : t ≠ []) (ht : ∀ b ∈ t, isNumeral b) (hw : Gap w)
    (hrest : Ended rest) (hread : readValue fuel depth (w ++ (t ++ rest)) = .ok (j, after)) :
    Leaves after rest := by
  obtain ⟨b, t, rfl⟩ := List.exists_cons_of_ne_nil hne
  obtain ⟨hb, ht'⟩ := List.forall_mem_cons.1 ht
  cases fuel with
  | zero => simp [readValue] at hread
  | succ fuel =>
      rw [List.cons_append] at hread
      cases hdigit : digitOf? b with
      | some d =>
          rw [readValue_digit hw hdigit] at hread
          exact Leaves.of_append hrest ht (leaves_of_readNumber hread)
      | none =>
          simp only [isNumeral, hdigit, Option.isSome_none, Bool.false_or, Bool.or_eq_true,
            beq_iff_eq] at hb
          rcases hb with (((rfl | rfl) | rfl) | rfl) | rfl
          case inl.inl.inl.inr =>
            rw [readValue_minus hw] at hread
            exact Leaves.of_append hrest ht' (leaves_of_readNumber hread)
          all_goals
            rw [readValue, skipGap_token hw (by decide)] at hread
            cases hread

theorem readItem_eq_ok {r : Json × Bytes} (h : readItem fuel depth seen bs = .ok r) :
    ∃ n v rest, readValue n depth bs = .ok (v, rest) ∧
      readItems n depth (some (v :: seen)) rest = .ok r := by
  cases fuel with
  | zero => simp [readItem] at h
  | succ n =>
      rw [readItem] at h
      split at h
      · cases h
      · rename_i v rest hvalue
        exact ⟨n, v, rest, hvalue, h⟩

theorem readField_eq_ok {r : Json × Bytes} (hk : KeyText k key)
    (h : readField fuel depth fields (key ++ bs) = .ok r) :
    ∃ n v rest, readValue n depth bs = .ok (v, rest) ∧
      readFields n depth (some (Keyed.insertEntry k v fields)) rest = .ok r := by
  cases fuel with
  | zero => simp [readField] at h
  | succ n =>
      obtain ⟨ht, hw⟩ := hk
      rw [List.append_assoc, List.cons_append, List.append_assoc, List.singleton_append, readField,
        ht.readString_eq] at h
      simp only [skipGap_token hw (b := 0x3A) (by decide), beq_self_eq_true, if_true] at h
      split at h
      · cases h
      · rename_i v rest hvalue
        exact ⟨n, v, rest, hvalue, h⟩

theorem skipGap_numeral (hb : isNumeral b) : skipGap (b :: bs) = b :: bs :=
  skipGap_token gap_nil (not_gap_of_isNumeral hb)

theorem readItems_numeral (hb : isNumeral b) :
    ∃ e, readItems fuel depth (some seen) (b :: bs) = .error e := by
  cases fuel with
  | zero => exact ⟨_, by rw [readItems]⟩
  | succ fuel =>
      rw [readItems, skipGap_numeral hb]
      simp [ne_of_isNumeral hb (c := 0x5D) (by decide), ne_of_isNumeral hb (c := 0x2C) (by decide)]

theorem readFields_numeral (hb : isNumeral b) :
    ∃ e, readFields fuel depth (some fields) (b :: bs) = .error e := by
  cases fuel with
  | zero => exact ⟨_, by rw [readFields]⟩
  | succ fuel =>
      rw [readFields, skipGap_numeral hb]
      simp [ne_of_isNumeral hb (c := 0x7D) (by decide), ne_of_isNumeral hb (c := 0x2C) (by decide)]

/-- Where a number has left some of its characters, nothing is read that cannot begin with one. -/
theorem Leaves.eq_of_read {read : Bytes → Except Fault (Json × Bytes)} {r : Json × Bytes}
    (h : Leaves after bs) (hnumeral : ∀ {b bs}, isNumeral b → ∃ e, read (b :: bs) = .error e)
    (hread : read after = .ok r) : after = bs := by
  obtain ⟨used, rfl, hused⟩ := h
  cases used with
  | nil => rfl
  | cons b used =>
      obtain ⟨e, he⟩ : ∃ e, read (b :: (used ++ bs)) = .error e :=
        hnumeral (hused b List.mem_cons_self)
      cases he.symm.trans hread

theorem leaves_of_leaf (hv : v.nesting = 0) (hs : ∀ s, v ≠ .string s) (hw : Gap w)
    (hrest : Ended rest)
    (hread : readValue fuel depth (w ++ (charBytes (spellLeaf v) ++ rest)) = .ok (j, after)) :
    Leaves after rest := by
  match v with
  | .int n =>
      exact leaves_of_readValue (charBytes_ne_nil (by simp [spellInt]))
        (numerals_spellInt n) hw hrest hread
  | .float x =>
      exact leaves_of_readValue (charBytes_ne_nil x.text_ne_nil) (numerals_text x) hw hrest hread
  | .null | .bool _ =>
      cases fuel with
      | zero => simp [readValue] at hread
      | succ fuel =>
          rw [readValue_leaf hv hs trivial hw hrest] at hread
          cases hread
          exact leaves_refl _
  | .string s => exact absurd rfl (hs s)
  | .array vs => simp [nesting] at hv
  | .object fs => simp [nesting] at hv

theorem succ_of_readValue {r : Json × Bytes} (h : readValue fuel depth bs = .ok r) :
    ∃ n, fuel = n + 1 := by
  cases fuel with
  | zero => simp [readValue] at h
  | succ n => exact ⟨n, rfl⟩

theorem succ_of_readItems {seen : Option (List Json)} {r : Json × Bytes}
    (h : readItems fuel depth seen bs = .ok r) : ∃ n, fuel = n + 1 := by
  cases fuel with
  | zero => simp [readItems] at h
  | succ n => exact ⟨n, rfl⟩

theorem succ_of_readFields {seen : Option (List (String × Json))} {r : Json × Bytes}
    (h : readFields fuel depth seen bs = .ok r) : ∃ n, fuel = n + 1 := by
  cases fuel with
  | zero => simp [readFields] at h
  | succ n => exact ⟨n, rfl⟩

mutual

theorem TextOf.nesting_lt_of_readValue {v t w rest fuel depth j after} (h : TextOf v t)
    (hdepth : 0 < depth) (hw : Gap w) (hrest : Ended rest)
    (hread : readValue fuel depth (w ++ (t ++ rest)) = .ok (j, after)) :
    v.nesting < depth ∧ Leaves after rest := by
  obtain ⟨n, rfl⟩ := succ_of_readValue hread
  match h with
  | .leaf hv hs => exact ⟨hv.symm ▸ hdepth, leaves_of_leaf hv hs hw hrest hread⟩
  | .string ht =>
      rw [List.cons_append, List.append_assoc] at hread
      obtain rfl : rest = after := congrArg Prod.snd
        (Except.ok.inj ((readValue_string hw ht).symm.trans hread))
      exact ⟨hdepth, leaves_refl _⟩
  | .noItems hgap =>
      rw [List.cons_append, List.append_assoc, readValue_bracket hw] at hread
      split at hread
      · cases hread
      · obtain ⟨m, rfl⟩ := succ_of_readItems hread
        obtain rfl : rest = after := congrArg Prod.snd
          (Except.ok.inj ((readItems_close hgap).symm.trans hread))
        exact ⟨by simp only [nesting, nestingItems]; omega, leaves_refl _⟩
  | .items hgap hv hvs =>
      rw [List.cons_append, List.append_assoc, List.append_assoc, readValue_bracket hw] at hread
      split at hread
      · cases hread
      · obtain ⟨m, rfl⟩ := succ_of_readItems hread
        rw [readItems_first hgap hv] at hread
        obtain ⟨m, v', mid, hvalue, hitems⟩ := readItem_eq_ok hread
        obtain ⟨hlt, hmid⟩ :=
          TextOf.nesting_lt_of_readValue hv (by omega) gap_nil (hvs.ended rest) hvalue
        -- A number may leave some of its characters behind, but then no list goes on there.
        obtain rfl := hmid.eq_of_read readItems_numeral hitems
        obtain ⟨hlts, rfl⟩ := TextOfItems.nesting_lt_of_readItems hvs (by omega) hitems
        exact ⟨by simp only [nesting, nestingItems]; omega, leaves_refl _⟩
  | .noFields hgap =>
      rw [List.cons_append, List.append_assoc, readValue_brace hw] at hread
      split at hread
      · cases hread
      · obtain ⟨m, rfl⟩ := succ_of_readFields hread
        obtain rfl : rest = after := congrArg Prod.snd
          (Except.ok.inj ((readFields_close hgap).symm.trans hread))
        exact ⟨by simp only [nesting, nestingFields]; omega, leaves_refl _⟩
  | .fields hgap hk hgap' hv hfs =>
      simp only [List.cons_append, List.append_assoc] at hread
      rw [readValue_brace hw] at hread
      split at hread
      · cases hread
      · obtain ⟨m, rfl⟩ := succ_of_readFields hread
        rw [readFields_first hgap] at hread
        obtain ⟨m, v', mid, hvalue, hfields⟩ := readField_eq_ok hk hread
        obtain ⟨hlt, hmid⟩ :=
          TextOf.nesting_lt_of_readValue hv (by omega) hgap' (hfs.ended rest) hvalue
        obtain rfl := hmid.eq_of_read readFields_numeral hfields
        obtain ⟨hlts, rfl⟩ := TextOfFields.nesting_lt_of_readFields hfs (by omega) hfields
        exact ⟨by simp only [nesting, nestingFields]; omega, leaves_refl _⟩

theorem TextOfItems.nesting_lt_of_readItems {vs u seen rest fuel depth j after}
    (h : TextOfItems vs u) (hdepth : 0 < depth)
    (hread : readItems fuel depth (some seen) (u ++ rest) = .ok (j, after)) :
    nestingItems vs < depth ∧ after = rest := by
  obtain ⟨n, rfl⟩ := succ_of_readItems hread
  match h with
  | .nil hgap =>
      rw [List.append_assoc] at hread
      exact ⟨hdepth, (congrArg Prod.snd
        (Except.ok.inj ((readItems_close hgap).symm.trans hread))).symm⟩
  | .cons hgap hgap' hv hvs =>
      simp only [List.cons_append, List.append_assoc] at hread
      rw [readItems_comma hgap hgap' hv] at hread
      obtain ⟨m, v', mid, hvalue, hitems⟩ := readItem_eq_ok hread
      obtain ⟨hlt, hmid⟩ :=
        TextOf.nesting_lt_of_readValue hv hdepth gap_nil (hvs.ended rest) hvalue
      obtain rfl := hmid.eq_of_read readItems_numeral hitems
      obtain ⟨hlts, hafter⟩ := TextOfItems.nesting_lt_of_readItems hvs hdepth hitems
      exact ⟨by simp only [nestingItems]; omega, hafter⟩

theorem TextOfFields.nesting_lt_of_readFields {fs u fields rest fuel depth j after}
    (h : TextOfFields fs u) (hdepth : 0 < depth)
    (hread : readFields fuel depth (some fields) (u ++ rest) = .ok (j, after)) :
    nestingFields fs < depth ∧ after = rest := by
  obtain ⟨n, rfl⟩ := succ_of_readFields hread
  match h with
  | .nil hgap =>
      rw [List.append_assoc] at hread
      exact ⟨hdepth, (congrArg Prod.snd
        (Except.ok.inj ((readFields_close hgap).symm.trans hread))).symm⟩
  | .cons hgap hgap' hk hgap'' hv hfs =>
      simp only [List.cons_append, List.append_assoc] at hread
      rw [readFields_comma hgap hgap'] at hread
      obtain ⟨m, v', mid, hvalue, hfields⟩ := readField_eq_ok hk hread
      obtain ⟨hlt, hmid⟩ :=
        TextOf.nesting_lt_of_readValue hv hdepth hgap'' (hfs.ended rest) hvalue
      obtain rfl := hmid.eq_of_read readFields_numeral hfields
      obtain ⟨hlts, hafter⟩ := TextOfFields.nesting_lt_of_readFields hfs hdepth hfields
      exact ⟨by simp only [nestingFields]; omega, hafter⟩

end

/-! ## Documents -/

theorem maxDepth_pos : 0 < maxDepth := by decide

theorem ended_of_gap (hw : Gap w) : Ended w := by
  intro b hb
  refine Bool.eq_false_iff.2 fun hnumeral => ?_
  have hgap := hw b (List.mem_of_head? hb)
  rw [not_gap_of_isNumeral hnumeral] at hgap
  cases hgap

/-- A document that does not nest too deep is read as its value. -/
theorem DocumentOf.read_eq (h : DocumentOf v bs) (hexact : v.IsExact)
    (hdepth : v.nesting < maxDepth) : read bs = .ok v.ordered := by
  obtain @⟨w, t, w', hw, ht, hw'⟩ := h
  have hvalue : readValue (3 * (w ++ (t ++ w')).length + 3) maxDepth (w ++ (t ++ w')) =
      .ok (v.ordered, w') :=
    ht.readValue_eq hexact hdepth hw (ended_of_gap hw') (by simp; omega)
  have hend : skipGap w' = [] := List.dropWhile_eq_nil_iff.2 hw'
  rw [read, readDocument, hvalue]
  simp [hend]

/-- A document that nests too deep is refused. -/
theorem DocumentOf.read_deep (h : DocumentOf v bs) (hdepth : maxDepth ≤ v.nesting) :
    ∃ e, read bs = .error e := by
  cases hread : readValue (3 * bs.length + 3) maxDepth bs with
  | error e => exact ⟨e.locate bs, by simp [read, readDocument, hread]⟩
  | ok r =>
      obtain ⟨j, after⟩ := r
      obtain ⟨hw, ht, hw'⟩ := h
      have hlt := (ht.nesting_lt_of_readValue (by decide) hw (ended_of_gap hw') hread).1
      exact absurd hlt (Nat.not_lt.2 hdepth)

theorem DocumentOf.eq_string {s : String} (h : DocumentOf v bs) (hs : DocumentOf (.string s) bs) :
    ∃ s', v = .string s' := by
  obtain @⟨w, t, w', hw, ht, hw'⟩ := h
  obtain ⟨b, t, rfl, hb⟩ := ht.head
  generalize hbytes : w ++ (b :: t ++ w') = bytes at hs
  obtain ⟨hgap, htext, -⟩ := hs
  cases htext with
  | leaf hv hs => exact absurd rfl (hs s)
  | string htext =>
      have hskip := congrArg skipGap hbytes
      rw [List.cons_append, skipGap_token hw hb.token, List.cons_append,
        skipGap_token hgap (by decide)] at hskip
      exact hb.quote (List.cons.inj hskip).1

theorem DocumentOf.ne_nil (h : DocumentOf v bs) : bs ≠ [] := by
  obtain ⟨hw, ht, hw'⟩ := h
  obtain ⟨b, t, rfl, -⟩ := ht.head
  simp

/-- The compact text of a value is read as the value, if it does not nest too deep. -/
theorem read_compact (hexact : v.IsExact) (hdepth : v.nesting < maxDepth) :
    read (Text.Utf8.encode v.compact) = .ok v.ordered :=
  (documentOf_compact v).read_eq hexact hdepth

/-- The indented text, with a line break at its end, is read as the same value. -/
theorem read_pretty (hexact : v.IsExact) (hdepth : v.nesting < maxDepth) :
    read (Text.Utf8.encode (v.pretty ++ "\n")) = .ok v.ordered :=
  (documentOf_pretty v).read_eq hexact hdepth

theorem read_compact_deep (hdepth : maxDepth ≤ v.nesting) :
    ∃ e, read (Text.Utf8.encode v.compact) = .error e :=
  (documentOf_compact v).read_deep hdepth

end SearchGateway.Json
