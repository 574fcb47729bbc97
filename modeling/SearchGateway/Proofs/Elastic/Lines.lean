import SearchGateway.Proofs.Elastic.Payload
import SearchGateway.Proofs.Lists

/-!
# Bodies of lines

Every body of lines gets one verdict, that of the first test it fails (`checkLines_eq_iff`). A body
that is accepted changes nothing about the verdict on what follows it, but for the number of a line
(`Payload.ndjson_verdict`).
-/

namespace SearchGateway.Elastic

variable {api : String} {body first second line : Bytes} {segments : List Bytes} {k i : Nat}
  {outcome : Except PayloadError Unit}

/-! ## Lines -/

def whiteSpace : List UInt8 := [0x09, 0x0A, 0x0C, 0x0D, 0x20]

theorem isBlankByte_iff {b : UInt8} : Text.isBlankByte b = true ↔ b ∈ whiteSpace := by
  simp only [Text.isBlankByte, Bool.or_eq_true, beq_iff_eq, whiteSpace, List.mem_cons,
    List.not_mem_nil, or_false]
  tauto

theorem isBlankBody_iff : isBlankBody body = true ↔ ∀ b ∈ body, b ∈ whiteSpace := by
  simp only [isBlankBody, List.all_eq_true, isBlankByte_iff]

theorem isBlankBody_eq_false_iff : isBlankBody body = false ↔ ∃ b ∈ body, b ∉ whiteSpace := by
  simp [← Bool.not_eq_true, isBlankBody_iff]

/-- The lines make up the body, with a newline between each two of them. -/
structure IsCut (body : Bytes) (segments : List Bytes) : Prop where
  nonempty : segments ≠ []
  single : ∀ line ∈ segments, 0x0A ∉ line
  joined : body = [0x0A].intercalate segments

theorem isCut_iff : IsCut body segments ↔ segments = lines body := by
  constructor
  · rintro ⟨hne, hsingle, rfl⟩
    exact (Text.split_intercalate hne hsingle).symm
  · rintro rfl
    refine ⟨Text.split_ne_nil _ _, fun line hline hmem => ?_, (Text.intercalate_split body).symm⟩
    simpa using (Text.mem_split_iff.1 hline).1 _ hmem

/-- What may stand on a line: nothing but white space, or a document. -/
def MayStand (line : Bytes) : Prop :=
  (∀ b ∈ line, b ∈ whiteSpace) ∨ ∃ document, Json.read line = .ok document

theorem acceptsLine_iff_mayStand : acceptsLine line = true ↔ MayStand line := by
  rw [acceptsLine_iff, isBlankBody_iff, MayStand]

theorem acceptsLine_eq_false_iff : acceptsLine line = false ↔ ¬ MayStand line := by
  rw [← acceptsLine_iff_mayStand, Bool.not_eq_true]

/-! ## Verdicts -/

/-- What comes of a body of lines: it is refused for the first of three reasons, or accepted. Lines
are counted from one, and white space counts as a line. -/
inductive Verdict (api : String) (body : Bytes) : Except PayloadError Unit → Prop where
  | missing (hblank : ∀ b ∈ body, b ∈ whiteSpace) : Verdict api body (.error .missing)
  | unterminated (hcontent : ∃ b ∈ body, b ∉ whiteSpace) (hend : body.getLast? ≠ some 0x0A) :
      Verdict api body (.error (.unterminated api))
  | malformed {front rest : List Bytes} {line : Bytes} (hcontent : ∃ b ∈ body, b ∉ whiteSpace)
      (hend : body.getLast? = some 0x0A) (hcut : IsCut body (front ++ line :: rest))
      (hfront : ∀ earlier ∈ front, MayStand earlier) (hline : ¬ MayStand line) :
      Verdict api body (.error (.malformedLine api (front.length + 1)))
  | accepted {segments : List Bytes} (hcontent : ∃ b ∈ body, b ∉ whiteSpace)
      (hend : body.getLast? = some 0x0A) (hcut : IsCut body segments)
      (hlines : ∀ line ∈ segments, MayStand line) : Verdict api body (.ok ())

theorem checkLines_of_blank (h : ∀ b ∈ body, b ∈ whiteSpace) :
    checkLines api body = .error .missing := by
  simp [checkLines, requireBody, isBlankBody_iff.2 h]

theorem checkLines_of_unterminated (hcontent : ∃ b ∈ body, b ∉ whiteSpace)
    (hend : body.getLast? ≠ some 0x0A) : checkLines api body = .error (.unterminated api) := by
  simp [checkLines, requireBody, isBlankBody_eq_false_iff.2 hcontent, hend]

theorem checkLines_of_terminated (hcontent : ∃ b ∈ body, b ∉ whiteSpace)
    (hend : body.getLast? = some 0x0A) :
    checkLines api body =
      match (lines body).findIdx? (!acceptsLine ·) with
      | some index => .error (.malformedLine api (index + 1))
      | none => .ok () := by
  simp only [checkLines, requireBody, isBlankBody_eq_false_iff.2 hcontent, hend]
  rfl

theorem findIdx?_lines_eq_none_iff :
    (lines body).findIdx? (!acceptsLine ·) = none ↔ ∀ line ∈ lines body, MayStand line := by
  simp only [List.findIdx?_eq_none_iff, Bool.not_eq_eq_eq_not, Bool.not_false,
    acceptsLine_iff_mayStand]

theorem findIdx?_lines_eq_some_iff :
    (lines body).findIdx? (!acceptsLine ·) = some i ↔ ∃ front line rest,
      IsCut body (front ++ line :: rest) ∧ front.length = i ∧
        (∀ earlier ∈ front, MayStand earlier) ∧ ¬ MayStand line := by
  simp only [findIdx?_eq_some_iff_append, isCut_iff, eq_comm (b := lines body),
    Bool.not_eq_eq_eq_not, Bool.not_false, Bool.not_true, acceptsLine_iff_mayStand,
    acceptsLine_eq_false_iff]

theorem verdict_checkLines (api : String) (body : Bytes) :
    Verdict api body (checkLines api body) := by
  by_cases hblank : ∀ b ∈ body, b ∈ whiteSpace
  · rw [checkLines_of_blank hblank]
    exact .missing hblank
  · have hcontent : ∃ b ∈ body, b ∉ whiteSpace := by simpa using hblank
    by_cases hend : body.getLast? = some 0x0A
    · rw [checkLines_of_terminated hcontent hend]
      cases hbad : (lines body).findIdx? (!acceptsLine ·) with
      | none =>
          exact .accepted hcontent hend (isCut_iff.2 rfl) (findIdx?_lines_eq_none_iff.1 hbad)
      | some i =>
          obtain ⟨front, line, rest, hcut, rfl, hfront, hline⟩ := findIdx?_lines_eq_some_iff.1 hbad
          exact .malformed hcontent hend hcut hfront hline
    · rw [checkLines_of_unterminated hcontent hend]
      exact .unterminated hcontent hend

theorem Verdict.eq (h : Verdict api body outcome) : checkLines api body = outcome := by
  cases h with
  | missing hblank => exact checkLines_of_blank hblank
  | unterminated hcontent hend => exact checkLines_of_unterminated hcontent hend
  | malformed hcontent hend hcut hfront hline =>
      rw [checkLines_of_terminated hcontent hend,
        findIdx?_lines_eq_some_iff.2 ⟨_, _, _, hcut, rfl, hfront, hline⟩]
  | accepted hcontent hend hcut hlines =>
      rw [isCut_iff] at hcut
      subst hcut
      rw [checkLines_of_terminated hcontent hend, findIdx?_lines_eq_none_iff.2 hlines]

/-- The check of a body of lines finds the one verdict there is on it. -/
theorem checkLines_eq_iff : checkLines api body = outcome ↔ Verdict api body outcome :=
  ⟨fun h => h ▸ verdict_checkLines api body, Verdict.eq⟩

/-! ## Bodies one after the other -/

theorem eq_of_checkLines_eq_malformed (h : checkLines api body = .error (.malformedLine api k)) :
    (∃ b ∈ body, b ∉ whiteSpace) ∧ body.getLast? = some 0x0A ∧
      ∃ i, (lines body).findIdx? (!acceptsLine ·) = some i ∧ k = i + 1 := by
  generalize hk : PayloadError.malformedLine api k = e at h
  cases checkLines_eq_iff.1 h with
  | missing | unterminated => cases hk
  | malformed hcontent hend hcut hfront hline =>
      cases hk
      exact ⟨hcontent, hend, _,
        findIdx?_lines_eq_some_iff.2 ⟨_, _, _, hcut, rfl, hfront, hline⟩, rfl⟩

theorem of_checkLines_eq_ok (h : checkLines api body = .ok ()) :
    (∃ b ∈ body, b ∉ whiteSpace) ∧ body.getLast? = some 0x0A ∧
      ∀ line ∈ lines body, MayStand line := by
  generalize hk : (.ok () : Except PayloadError Unit) = outcome at h
  cases checkLines_eq_iff.1 h with
  | missing | unterminated | malformed => cases hk
  | accepted hcontent hend hcut hlines => exact ⟨hcontent, hend, isCut_iff.1 hcut ▸ hlines⟩

/-- After a newline the lines begin anew. The empty line at the end of the first body is no line of
both. -/
theorem lines_append (second : Bytes) (hend : first.getLast? = some 0x0A) :
    ∃ front, lines first = front ++ [[]] ∧ front.length = first.count 0x0A ∧
      lines (first ++ second) = front ++ lines second := by
  obtain ⟨before, rfl⟩ := List.getLast?_eq_some_iff.1 hend
  have hnewline : ((0x0A : UInt8) == 0x0A) = true := beq_self_eq_true _
  refine ⟨lines before, Text.split_append_cons hnewline, ?_, ?_⟩
  · rw [lines, Text.length_split, List.count_append, List.count_singleton_self, List.count]
  · rw [List.append_assoc, List.singleton_append]
    exact Text.split_append_cons hnewline

theorem checkLines_append (hfirst : checkLines api first = .ok ())
    (hend : second.getLast? = some 0x0A) :
    checkLines api (first ++ second) =
      match (lines second).findIdx? (!acceptsLine ·) with
      | some index => .error (.malformedLine api (first.count 0x0A + (index + 1)))
      | none => .ok () := by
  obtain ⟨⟨b, hb, hcontent⟩, hterminated, hlines⟩ := of_checkLines_eq_ok hfirst
  obtain ⟨front, hfront, hlength, happend⟩ := lines_append second hterminated
  have hnone : front.findIdx? (!acceptsLine ·) = none := by
    simp only [List.findIdx?_eq_none_iff, Bool.not_eq_eq_eq_not, Bool.not_false,
      acceptsLine_iff_mayStand]
    exact fun line hline => hlines line (hfront ▸ List.mem_append_left _ hline)
  have hboth : (first ++ second).getLast? = some 0x0A := by
    rw [List.getLast?_append, hend, Option.some_or]
  rw [checkLines_of_terminated ⟨b, List.mem_append_left _ hb, hcontent⟩ hboth, happend,
    List.findIdx?_append, hnone, Option.none_or, hlength]
  cases (lines second).findIdx? (!acceptsLine ·) with
  | none => rfl
  | some index => simp only [Option.map_some, Nat.add_left_comm, Nat.add_assoc, Nat.add_comm]

/-- A body of lines is accepted if it holds more than white space, ends in a newline and has white
space or a document on each of its lines; otherwise the first of these that it lacks is reported,
with the number of the first line that is neither. An accepted body may stand before another one:
both are accepted if that is, and a line is reported with the lines before it counted in. -/
theorem Payload.ndjson_verdict (api : String) :
    (∀ body outcome, (Payload.ndjson api).check body = outcome ↔ Verdict api body outcome) ∧
    (∀ k, (PayloadError.malformedLine api k).failure = .parse s!"malformed {api} line [{k}]") ∧
    ∀ first second, (Payload.ndjson api).check first = .ok () →
      ((Payload.ndjson api).check second = .ok () →
        (Payload.ndjson api).check (first ++ second) = .ok ()) ∧
      ∀ k, (Payload.ndjson api).check second = .error (.malformedLine api k) →
        (Payload.ndjson api).check (first ++ second) =
          .error (.malformedLine api (first.count 0x0A + k)) := by
  refine ⟨fun body outcome => checkLines_eq_iff, fun k => rfl, fun first second hfirst => ⟨?_, ?_⟩⟩
  · intro hsecond
    obtain ⟨-, hend, hlines⟩ := of_checkLines_eq_ok hsecond
    exact (checkLines_append hfirst hend).trans (by rw [findIdx?_lines_eq_none_iff.2 hlines])
  · intro k hsecond
    obtain ⟨-, hend, i, hbad, rfl⟩ := eq_of_checkLines_eq_malformed hsecond
    exact (checkLines_append hfirst hend).trans (by rw [hbad])

/-- Two lines, the second of which is blank. -/
def shortBatch : Bytes := Text.Utf8.encode "\x7b\x7d\n \x0C\n"

/-- Three lines, the last of which breaks off. -/
def brokenBatch : Bytes := Text.Utf8.encode "\n[1]\n[1,\n"

/-- The third line of a batch is the fifth one of both. -/
theorem ndjson_verdict_batches :
    (Payload.ndjson "bulk").check shortBatch = .ok () ∧
    (Payload.ndjson "bulk").check (shortBatch ++ shortBatch) = .ok () ∧
    (Payload.ndjson "bulk").check brokenBatch = .error (.malformedLine "bulk" 3) ∧
    Verdict "bulk" brokenBatch (.error (.malformedLine "bulk" 3)) ∧
    (Payload.ndjson "bulk").check (shortBatch ++ brokenBatch) =
      .error (.malformedLine "bulk" 5) := by
  obtain ⟨hverdict, -, happend⟩ := Payload.ndjson_verdict "bulk"
  have hshort : (Payload.ndjson "bulk").check shortBatch = .ok () := by decide +kernel
  have hbroken : (Payload.ndjson "bulk").check brokenBatch = .error (.malformedLine "bulk" 3) := by
    decide +kernel
  have hcount : shortBatch.count 0x0A = 2 := by decide +kernel
  refine ⟨hshort, (happend _ _ hshort).1 hshort, hbroken, (hverdict _ _).1 hbroken, ?_⟩
  simpa [hcount] using (happend _ _ hshort).2 3 hbroken

end SearchGateway.Elastic
