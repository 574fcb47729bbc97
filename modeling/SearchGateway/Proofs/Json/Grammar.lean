import SearchGateway.Proofs.Json.Quotation
import SearchGateway.Proofs.Json.Spelling

/-!
# The texts of a value

`TextOf v t` holds of the texts that RFC 8259 has for a value: blanks may stand between any two
tokens, and strings may have escapes that the writer never gives. Integers are decimal; of the texts
of any other number only the written one is meant. What a writer spells is one of these texts
(`Spells.textOf`).
-/

namespace SearchGateway.Json

open Text.Utf8 (charBytes charBytes_append)

/-- A text of a key after its opening quote, with the colon. -/
inductive KeyText (k : String) : Bytes → Prop where
  | intro {t w} (ht : CharsText k.toList t) (hw : Gap w) : KeyText k (t ++ 0x22 :: (w ++ [0x3A]))

mutual

/-- A text of a value. -/
inductive TextOf : Json → Bytes → Prop where
  | leaf {v} (hv : v.nesting = 0) (hs : ∀ s, v ≠ .string s) : TextOf v (charBytes (spellLeaf v))
  | string {s t} (ht : CharsText s.toList t) : TextOf (.string s) (0x22 :: (t ++ [0x22]))
  | noItems {w} (hw : Gap w) : TextOf (.array []) (0x5B :: (w ++ [0x5D]))
  | items {v vs w t u} (hw : Gap w) (hv : TextOf v t) (hvs : TextOfItems vs u) :
      TextOf (.array (v :: vs)) (0x5B :: (w ++ (t ++ u)))
  | noFields {w} (hw : Gap w) : TextOf (.object []) (0x7B :: (w ++ [0x7D]))
  | fields {k v fs w key w' t u} (hw : Gap w) (hk : KeyText k key) (hw' : Gap w')
      (hv : TextOf v t) (hfs : TextOfFields fs u) :
      TextOf (.object ((k, v) :: fs)) (0x7B :: (w ++ 0x22 :: (key ++ (w' ++ (t ++ u)))))

/-- A text of the items after the first one, up to the closing bracket. -/
inductive TextOfItems : List Json → Bytes → Prop where
  | nil {w} (hw : Gap w) : TextOfItems [] (w ++ [0x5D])
  | cons {v vs w w' t u} (hw : Gap w) (hw' : Gap w') (hv : TextOf v t) (hvs : TextOfItems vs u) :
      TextOfItems (v :: vs) (w ++ 0x2C :: (w' ++ (t ++ u)))

/-- A text of the fields after the first one, up to the closing brace. -/
inductive TextOfFields : List (String × Json) → Bytes → Prop where
  | nil {w} (hw : Gap w) : TextOfFields [] (w ++ [0x7D])
  | cons {k v fs w w' key w'' t u} (hw : Gap w) (hw' : Gap w') (hk : KeyText k key)
      (hw'' : Gap w'') (hv : TextOf v t) (hfs : TextOfFields fs u) :
      TextOfFields ((k, v) :: fs) (w ++ 0x2C :: (w' ++ 0x22 :: (key ++ (w'' ++ (t ++ u)))))

end

/-- A document with this value: blanks may stand around its text. -/
inductive DocumentOf (v : Json) : Bytes → Prop where
  | intro {w t w'} (hw : Gap w) (ht : TextOf v t) (hw' : Gap w') : DocumentOf v (w ++ (t ++ w'))

/-- A document says a value if it has the same fields, in whatever order they stand; of equal keys
the last one counts. -/
def Says (bs : Bytes) (v : Json) : Prop :=
  ∃ v', DocumentOf v' bs ∧ v'.ordered = v.ordered

/-! ## The writer's texts -/

/-- A key that is spelled is a text of the key, whatever stands behind its colon. -/
theorem exists_keyText (k : String) : ∃ key, KeyText k key ∧ ∀ rest : Bytes,
    charBytes (spellString k) ++ 0x3A :: rest = 0x22 :: (key ++ rest) := by
  refine ⟨_, .intro (charsText_spelled k.toList) gap_nil, fun rest => ?_⟩
  simp [charBytes_spellString]

mutual

/-- What a writer spells is a text of its value. -/
theorem Spells.textOf {v t} (h : Spells v t) : TextOf v t := by
  match h with
  | .leaf (v := .string s) _ =>
      rw [spellLeaf, charBytes_spellString]
      exact .string (charsText_spelled s.toList)
  | .leaf (v := .null) hv | .leaf (v := .bool _) hv | .leaf (v := .int _) hv
  | .leaf (v := .float _) hv | .leaf (v := .array _) hv | .leaf (v := .object _) hv =>
      exact .leaf hv nofun
  | .noItems => exact .noItems gap_nil
  | .items hw hv hvs => exact .items hw hv.textOf hvs.textOfItems
  | .noFields => exact .noFields gap_nil
  | .fields (k := k) hw hw' hv hfs =>
      obtain ⟨key, hk, hkey⟩ := exists_keyText k
      rw [hkey]
      exact .fields hw hk hw' hv.textOf hfs.textOfFields

theorem SpellsItems.textOfItems {vs u} (h : SpellsItems vs u) : TextOfItems vs u := by
  match h with
  | .nil hw => exact .nil hw
  | .cons hw hv hvs => exact .cons gap_nil hw hv.textOf hvs.textOfItems

theorem SpellsFields.textOfFields {fs u} (h : SpellsFields fs u) : TextOfFields fs u := by
  match h with
  | .nil hw => exact .nil hw
  | .cons (k := k) hw hw' hv hfs =>
      obtain ⟨key, hk, hkey⟩ := exists_keyText k
      rw [hkey]
      exact .cons gap_nil hw hk hw' hv.textOf hfs.textOfFields

end

theorem documentOf_compact (v : Json) : DocumentOf v (Text.Utf8.encode v.compact) := by
  have h := DocumentOf.intro gap_nil (spells_compactChars v).textOf gap_nil
  rwa [List.nil_append, List.append_nil, ← String.toList_ofList (l := compactChars v)] at h

theorem documentOf_pretty (v : Json) : DocumentOf v (Text.Utf8.encode (v.pretty ++ "\n")) := by
  have h := DocumentOf.intro gap_nil (spells_prettyChars 0 v).textOf gap_newline
  rw [Text.Utf8.encode_eq_charBytes, String.toList_append, pretty, String.toList_ofList,
    charBytes_append]
  exact h

end SearchGateway.Json
