import SearchGateway.Elastic.Payload
import SearchGateway.Proofs.Outcome
import SearchGateway.Proofs.Text.Split

/-!
# What the rules for bodies demand

A rule is stated about the bytes of a body and the document that is read from them
(`Payload.Admits`), without the order of the checks and their errors. The check of a rule accepts
exactly what the rule admits (`Payload.check_eq_ok_iff`).
-/

namespace SearchGateway.Elastic

open Text (IsPiece)

variable {body line : Bytes} {document : Json} {name api : String} {rule : Payload}

/-! ## Blank bodies -/

/-- Of white space only the form feed is no gap between tokens, and no value begins with it. -/
theorem eq_formFeed {b : UInt8} (hblank : Text.isBlankByte b = true)
    (hgap : Json.isGap b = false) : b = 0x0C := by
  simp only [Text.isBlankByte, Bool.or_eq_true, beq_iff_eq] at hblank
  rcases hblank with (((rfl | rfl) | rfl) | rfl) | rfl
  · cases hgap
  · cases hgap
  · cases hgap
  · rfl
  · cases hgap

theorem readValue_blank (fuel depth : Nat) (h : isBlankBody body = true) :
    ∃ e, Json.readValue (fuel + 1) depth body = .error e := by
  rw [Json.readValue]
  cases hskip : Json.skipGap body with
  | nil => exact ⟨_, rfl⟩
  | cons b rest =>
      rw [Json.skipGap] at hskip
      have hmem : b ∈ body.dropWhile Json.isGap := by simp [hskip]
      have hgap := List.head?_dropWhile_not Json.isGap body
      simp only [hskip, List.head?_cons] at hgap
      obtain rfl := eq_formFeed (List.all_eq_true.1 h b
        ((List.dropWhile_suffix Json.isGap).subset hmem)) hgap
      exact ⟨_, rfl⟩

theorem read_blank (h : isBlankBody body = true) : ∃ e, Json.read body = .error e := by
  obtain ⟨e, he⟩ := readValue_blank (3 * body.length + 2) Json.maxDepth h
  exact ⟨e.locate body, by simp [Json.read, Json.readDocument, he]⟩

theorem not_blank_of_read {v : Json} (h : Json.read body = .ok v) : isBlankBody body = false := by
  refine Bool.eq_false_iff.2 fun hblank => ?_
  obtain ⟨e, he⟩ := read_blank hblank
  cases h.symm.trans he

/-! ## Single checks -/

theorem requireBody_eq_ok_iff {u : Unit} :
    requireBody body = .ok u ↔ isBlankBody body = false := by
  unfold requireBody
  split <;> simp_all

theorem requireObject_eq_ok_iff :
    requireObject body = .ok document ↔
      ∃ fields, Json.read body = .ok (.object fields) ∧ document = .object fields := by
  unfold requireObject
  cases Json.read body with
  | error e => simp
  | ok v => cases v <;> simp [eq_comm]

theorem hasField_iff :
    hasField document name = true ↔ ∃ v, document.field? name = some v ∧ v ≠ .null := by
  unfold hasField
  cases document.field? name with
  | none => simp
  | some v => cases v <;> simp [Json.isNull]

theorem acceptsLine_iff :
    acceptsLine line = true ↔ isBlankBody line = true ∨ ∃ v, Json.read line = .ok v := by
  unfold acceptsLine
  cases Json.read line <;> simp [Except.isOk, Except.toBool]

/-- Every line of a body is blank or a document. -/
def HoldsDocuments (body : Bytes) : Prop :=
  ∀ line, IsPiece (· == 0x0A) body line →
    isBlankBody line = true ∨ ∃ v, Json.read line = .ok v

theorem checkLines_eq_ok_iff :
    checkLines api body = .ok () ↔
      isBlankBody body = false ∧ body.getLast? = some 0x0A ∧ HoldsDocuments body := by
  have hlines : (lines body).findIdx? (!acceptsLine ·) = none ↔ HoldsDocuments body := by
    simp only [List.findIdx?_eq_none_iff, Bool.not_eq_eq_eq_not, Bool.not_false, lines,
      Text.mem_split_iff, acceptsLine_iff, HoldsDocuments]
  simp only [checkLines, bind_eq_ok_iff, requireBody_eq_ok_iff, ← hlines]
  by_cases hend : body.getLast? = some 0x0A
  · cases (lines body).findIdx? (!acceptsLine ·) <;> simp [hend]
  · simp [hend]

/-! ## Rules -/

/-- What a rule demands of a body, and of the document that is read from it if it is one. -/
def Payload.Admits (rule : Payload) (body : Bytes) (document? : Option Json) : Prop :=
  match rule with
  | .ignored => True
  | .jsonObject => isBlankBody body = true ∨ ∃ fields, document? = some (.object fields)
  | .requiredJsonObject => ∃ fields, document? = some (.object fields)
  | .requiredFields names => ∃ fields, document? = some (.object fields) ∧
      ∀ name ∈ names, ∃ v, (Json.object fields).field? name = some v ∧ v ≠ .null
  | .ndjson _ => isBlankBody body = false ∧ body.getLast? = some 0x0A ∧ HoldsDocuments body

/-- The check of a rule accepts exactly the bodies that the rule admits. -/
theorem Payload.check_eq_ok_iff :
    rule.check body = .ok () ↔ rule.Admits body (Json.read body).toOption := by
  cases rule with
  | ignored => simp [check, Admits]
  | jsonObject =>
      simp only [check, Admits, toOption_eq_some_iff]
      cases hblank : isBlankBody body with
      | true => simp
      | false => simp [bind_eq_ok_iff, requireObject_eq_ok_iff]
  | requiredJsonObject =>
      simp only [check, Admits, toOption_eq_some_iff, bind_eq_ok_iff, requireBody_eq_ok_iff,
        requireObject_eq_ok_iff]
      constructor
      · rintro ⟨_, -, _, ⟨fields, hread, -⟩, -⟩
        exact ⟨fields, hread⟩
      · rintro ⟨fields, hread⟩
        exact ⟨(), not_blank_of_read hread, _, ⟨fields, hread, rfl⟩, rfl⟩
  | requiredFields names =>
      have hfields : ∀ document, names.find? (!hasField document ·) = none ↔
          ∀ name ∈ names, ∃ v, document.field? name = some v ∧ v ≠ .null := by
        simp [List.find?_eq_none, hasField_iff]
      simp only [check, Admits, toOption_eq_some_iff, bind_eq_ok_iff, requireBody_eq_ok_iff,
        requireObject_eq_ok_iff]
      constructor
      · rintro ⟨_, -, document, ⟨fields, hread, rfl⟩, h⟩
        refine ⟨fields, hread, (hfields _).1 ?_⟩
        split at h
        · cases h
        · assumption
      · rintro ⟨fields, hread, h⟩
        refine ⟨(), not_blank_of_read hread, _, ⟨fields, hread, rfl⟩, ?_⟩
        rw [(hfields _).2 h]
        rfl
  | ndjson api => exact checkLines_eq_ok_iff

end SearchGateway.Elastic
