import SearchGateway.Json.Reader
import SearchGateway.Json.Writer
import SearchGateway.Proofs.Json.Ordered
import SearchGateway.Proofs.Text.Utf8

/-!
# What a JSON text says

`Spells v t` holds of the texts that a writer may give for a value: the tokens are fixed, blanks
may stand between them. The compact and the indented text both spell their value
(`spells_compactChars`, `spells_prettyChars`).
-/

namespace SearchGateway.Json

open Text.Utf8 (charBytes charBytes_append charBytes_cons)

/-- Blanks that may stand between tokens. -/
def Gap (w : Bytes) : Prop :=
  ∀ b ∈ w, isGap b

mutual

/-- A text that spells a value. -/
inductive Spells : Json → Bytes → Prop where
  | leaf {v} (hv : v.nesting = 0) : Spells v (charBytes (spellLeaf v))
  | noItems : Spells (.array []) [0x5B, 0x5D]
  | items {v vs w t u} (hw : Gap w) (hv : Spells v t) (hvs : SpellsItems vs u) :
      Spells (.array (v :: vs)) (0x5B :: (w ++ (t ++ u)))
  | noFields : Spells (.object []) [0x7B, 0x7D]
  | fields {k v fs w w' t u} (hw : Gap w) (hw' : Gap w') (hv : Spells v t)
      (hfs : SpellsFields fs u) : Spells (.object ((k, v) :: fs))
        (0x7B :: (w ++ (charBytes (spellString k) ++ 0x3A :: (w' ++ (t ++ u)))))

/-- A text that spells the items after the first one, up to the closing bracket. -/
inductive SpellsItems : List Json → Bytes → Prop where
  | nil {w} (hw : Gap w) : SpellsItems [] (w ++ [0x5D])
  | cons {v vs w t u} (hw : Gap w) (hv : Spells v t) (hvs : SpellsItems vs u) :
      SpellsItems (v :: vs) (0x2C :: (w ++ (t ++ u)))

/-- A text that spells the fields after the first one, up to the closing brace. -/
inductive SpellsFields : List (String × Json) → Bytes → Prop where
  | nil {w} (hw : Gap w) : SpellsFields [] (w ++ [0x7D])
  | cons {k v fs w w' t u} (hw : Gap w) (hw' : Gap w') (hv : Spells v t)
      (hfs : SpellsFields fs u) : SpellsFields ((k, v) :: fs)
        (0x2C :: (w ++ (charBytes (spellString k) ++ 0x3A :: (w' ++ (t ++ u)))))

end

/-! ## Blanks -/

theorem gap_nil : Gap [] := by
  simp [Gap]

theorem gap_space : Gap (String.utf8EncodeChar ' ') :=
  List.all_eq_true.1 (by decide)

theorem gap_newline : Gap (String.utf8EncodeChar '\n') :=
  List.all_eq_true.1 (by decide)

theorem gap_lineBreak (level : Nat) : Gap (charBytes (lineBreak level)) := by
  intro b hb
  obtain ⟨c, hc, hb⟩ := List.mem_flatMap.1 hb
  rcases List.mem_cons.1 hc with rfl | hc
  · exact gap_newline b hb
  · rw [List.eq_of_mem_replicate hc] at hb
    exact gap_space b hb

/-! ## Both texts -/

mutual

/-- The compact text spells the value. -/
theorem spells_compactChars (v : Json) : Spells v (charBytes (compactChars v)) := by
  match v with
  | .null | .bool _ | .int _ | .float _ | .string _ => exact .leaf rfl
  | .array [] => exact .noItems
  | .array (v :: vs) =>
      simp only [compactChars, charBytes_cons, charBytes_append]
      exact .items gap_nil (spells_compactChars v) (spells_compactItems vs)
  | .object [] => exact .noFields
  | .object ((k, v) :: fs) =>
      simp only [compactChars, charBytes_cons, charBytes_append]
      exact .fields gap_nil gap_nil (spells_compactChars v) (spells_compactFields fs)

theorem spells_compactItems (vs : List Json) :
    SpellsItems vs (charBytes (compactItems vs) ++ charBytes [']']) := by
  match vs with
  | [] => exact .nil gap_nil
  | v :: vs =>
      simp only [compactItems, charBytes_cons, charBytes_append, List.append_assoc]
      exact .cons gap_nil (spells_compactChars v) (spells_compactItems vs)

theorem spells_compactFields (fs : List (String × Json)) :
    SpellsFields fs (charBytes (compactFields fs) ++ charBytes ['\x7d']) := by
  match fs with
  | [] => exact .nil gap_nil
  | (k, v) :: fs =>
      simp only [compactFields, charBytes_cons, charBytes_append, List.append_assoc]
      exact .cons gap_nil gap_nil (spells_compactChars v) (spells_compactFields fs)

end

mutual

/-- The indented text spells the value, at any level. -/
theorem spells_prettyChars (level : Nat) (v : Json) :
    Spells v (charBytes (prettyChars level v)) := by
  match v with
  | .null | .bool _ | .int _ | .float _ | .string _ => exact .leaf rfl
  | .array [] => exact .noItems
  | .array (v :: vs) =>
      simp only [prettyChars, charBytes_cons, charBytes_append, List.append_assoc]
      exact (Spells.items (gap_lineBreak (level + 1)) (spells_prettyChars (level + 1) v)
        (spells_prettyItems level vs) :)
  | .object [] => exact .noFields
  | .object ((k, v) :: fs) =>
      simp only [prettyChars, charBytes_cons, charBytes_append, List.append_assoc]
      exact (Spells.fields (gap_lineBreak (level + 1)) gap_space (spells_prettyChars (level + 1) v)
        (spells_prettyFields level fs) :)

theorem spells_prettyItems (level : Nat) (vs : List Json) :
    SpellsItems vs (charBytes (prettyItems (level + 1) vs) ++
      (charBytes (lineBreak level) ++ charBytes [']'])) := by
  match vs with
  | [] => exact .nil (gap_lineBreak level)
  | v :: vs =>
      simp only [prettyItems, charBytes_cons, charBytes_append, List.append_assoc]
      exact (SpellsItems.cons (gap_lineBreak (level + 1)) (spells_prettyChars (level + 1) v)
        (spells_prettyItems level vs) :)

theorem spells_prettyFields (level : Nat) (fs : List (String × Json)) :
    SpellsFields fs (charBytes (prettyFields (level + 1) fs) ++
      (charBytes (lineBreak level) ++ charBytes ['\x7d'])) := by
  match fs with
  | [] => exact .nil (gap_lineBreak level)
  | (k, v) :: fs =>
      simp only [prettyFields, charBytes_cons, charBytes_append, List.append_assoc]
      exact (SpellsFields.cons (gap_lineBreak (level + 1)) gap_space
        (spells_prettyChars (level + 1) v) (spells_prettyFields level fs) :)

end

end SearchGateway.Json
