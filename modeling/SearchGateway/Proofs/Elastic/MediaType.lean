import SearchGateway.Elastic.MediaType
import SearchGateway.Proofs.Outcome
import SearchGateway.Proofs.Text.Case

/-!
# What a media type is read for

A value is read for two things, its essence and the versions that its parameters ask for
(`plainType_congr`). Other spellings of a value therefore have the same outcome
(`plainType_outcome`): letter case, blanks around the parts, the order and the number of the
parameters, and parameters about anything else do not count.
-/

namespace SearchGateway.Elastic

/-- A text begins with another one. -/
def Begins (start text : String) : Prop :=
  ∃ rest, text = start ++ rest

def normalPart (part : String) : String :=
  Text.lowered (Text.trimmed part)

/-- The part of a vendor type after the plus sign that stands for a plain type. -/
def PlainType.subtype : PlainType → String
  | .json => "json"
  | .ndjson => "x-ndjson"

/-- One value is another one spelled differently. -/
inductive Respelled : String → String → Prop where
  | letterCase {value value'} : Text.lowered value = Text.lowered value' → Respelled value value'
  | blanks {value value'} :
      (Text.splitAt ';' value).map Text.trimmed = (Text.splitAt ';' value').map Text.trimmed →
      Respelled value value'
  /-- The parameters in another order, some of them repeated or not repeated any more. -/
  | rearranged {value value' essence parameters parameters'} :
      Text.splitAt ';' value = essence :: parameters →
      Text.splitAt ';' value' = essence :: parameters' →
      (∀ parameter, parameter ∈ parameters ↔ parameter ∈ parameters') → Respelled value value'
  /-- One more parameter, which is not about a version. -/
  | enlarged {value value' essence front extra back} :
      Text.splitAt ';' value = essence :: (front ++ back) →
      Text.splitAt ';' value' = essence :: (front ++ extra :: back) →
      ¬ Begins versionStart (normalPart extra) → Respelled value value'
  | symm {value value'} : Respelled value value' → Respelled value' value
  | trans {value value' value''} : Respelled value value' → Respelled value' value'' →
      Respelled value value''

/-- Two values have the same essence and ask for the same versions. -/
structure ReadsAlike (value value' : String) : Prop where
  essence : (mediaParts value).headD "" = (mediaParts value').headD ""
  versions : ∀ version, versionStart ++ version ∈ (mediaParts value).tail ↔
    versionStart ++ version ∈ (mediaParts value').tail

variable {value value' essence : String} {parameters : List String} {t : PlainType}

/-! ## Reading the parts -/

theorem after?_eq_some_iff {start text rest : String} :
    after? start text = some rest ↔ text = start ++ rest := by
  rw [after?, Option.map_eq_some_iff, ← String.toList_inj, String.toList_append,
    ← Text.after?_eq_some_iff]
  constructor
  · rintro ⟨chars, hchars, rfl⟩
    rw [hchars, String.toList_ofList]
  · intro h
    exact ⟨rest.toList, h, String.ofList_toList⟩

theorem after?_eq_none_iff {start text : String} :
    after? start text = none ↔ ¬ Begins start text := by
  simp [Option.eq_none_iff_forall_ne_some, after?_eq_some_iff, Begins]

theorem PlainType.ofSubtype?_eq_some_iff {subtype : String} :
    PlainType.ofSubtype? subtype = some t ↔ subtype = t.subtype := by
  unfold PlainType.ofSubtype?
  split <;> cases t <;> simp_all [PlainType.subtype]

theorem unservedVersion?_eq_none_iff {parts : List String} : unservedVersion? parts = none ↔
    ∀ version, versionStart ++ version ∈ parts → version ∈ servedVersions := by
  simp only [unservedVersion?, List.find?_eq_none, List.mem_filterMap, after?_eq_some_iff,
    decide_eq_true_eq, not_not]
  constructor
  · intro h version hmem
    exact h version ⟨_, hmem, rfl⟩
  · rintro h version ⟨_, hmem, rfl⟩
    exact h version hmem

theorem mediaParts_eq (value : String) :
    mediaParts value = (Text.splitAt ';' value).map normalPart := by
  rw [mediaParts, Text.splitAt_lowered (by decide), List.map_map]
  exact List.map_congr_left fun part _ => Text.trimmed_lowered part

theorem mediaParts_of_splitAt (h : Text.splitAt ';' value = essence :: parameters) :
    mediaParts value = normalPart essence :: parameters.map normalPart := by
  rw [mediaParts_eq, h, List.map_cons]

/-! ## Other spellings -/

theorem ReadsAlike.symm (h : ReadsAlike value value') : ReadsAlike value' value :=
  ⟨h.essence.symm, fun version => (h.versions version).symm⟩

theorem ReadsAlike.trans {value'' : String} (h : ReadsAlike value value')
    (h' : ReadsAlike value' value'') : ReadsAlike value value'' :=
  ⟨h.essence.trans h'.essence, fun version => (h.versions version).trans (h'.versions version)⟩

theorem readsAlike_of_mediaParts_eq (h : mediaParts value = mediaParts value') :
    ReadsAlike value value' :=
  ⟨by rw [h], fun _ => by rw [h]⟩

theorem readsAlike_of_splitAt {parameters' : List String}
    (h : Text.splitAt ';' value = essence :: parameters)
    (h' : Text.splitAt ';' value' = essence :: parameters')
    (hversions : ∀ version, versionStart ++ version ∈ parameters.map normalPart ↔
      versionStart ++ version ∈ parameters'.map normalPart) : ReadsAlike value value' := by
  constructor <;> rw [mediaParts_of_splitAt h, mediaParts_of_splitAt h']
  · rfl
  · exact hversions

theorem Respelled.readsAlike (h : Respelled value value') : ReadsAlike value value' := by
  induction h with
  | letterCase h => exact readsAlike_of_mediaParts_eq (by rw [mediaParts, h, mediaParts])
  | blanks h =>
      refine readsAlike_of_mediaParts_eq ?_
      have hlowered := congrArg (List.map Text.lowered) h
      rw [List.map_map, List.map_map] at hlowered
      rw [mediaParts_eq, mediaParts_eq]
      exact hlowered
  | rearranged h h' hsame =>
      exact readsAlike_of_splitAt h h' fun version => by simp only [List.mem_map, hsame]
  | @enlarged _ _ _ front extra back h h' hextra =>
      refine readsAlike_of_splitAt h h' fun version => ?_
      have hne : versionStart ++ version ≠ normalPart extra := fun heq =>
        hextra ⟨version, heq.symm⟩
      simp [hne, -List.mem_map]
  | symm _ ih => exact ih.symm
  | trans _ _ ih ih' => exact ih.trans ih'

/-! ## The outcome -/

theorem plainType_eq_none_iff :
    plainType value = .ok none ↔ ¬ Begins vendorStart ((mediaParts value).headD "") := by
  rw [← after?_eq_none_iff]
  unfold plainType
  dsimp only
  cases after? vendorStart ((mediaParts value).headD "") with
  | none => simp only
  | some subtype =>
      cases hplain : PlainType.ofSubtype? subtype with
      | none => simp [hplain]
      | some t => cases unservedVersion? (mediaParts value).tail <;> simp [hplain]

theorem plainType_eq_some_iff : plainType value = .ok (some t) ↔
    (mediaParts value).headD "" = vendorStart ++ t.subtype ∧
      ∀ version, versionStart ++ version ∈ (mediaParts value).tail →
        version ∈ servedVersions := by
  rw [← after?_eq_some_iff, ← unservedVersion?_eq_none_iff]
  unfold plainType
  dsimp only
  cases after? vendorStart ((mediaParts value).headD "") with
  | none => simp
  | some subtype =>
      rw [Option.some_inj, ← PlainType.ofSubtype?_eq_some_iff]
      cases hplain : PlainType.ofSubtype? subtype with
      | none => simp [hplain]
      | some other => cases unservedVersion? (mediaParts value).tail <;> simp [hplain]

/-- A value is read for its essence and its versions only. -/
theorem plainType_congr (h : ReadsAlike value value') :
    (plainType value').toOption = (plainType value).toOption := by
  ext outcome
  rw [toOption_eq_some_iff, toOption_eq_some_iff]
  cases outcome with
  | none => rw [plainType_eq_none_iff, plainType_eq_none_iff, h.essence]
  | some t => simp only [plainType_eq_some_iff, h.essence, h.versions]

theorem plainType_name (t : PlainType) : plainType t.name = .ok none := by
  refine plainType_eq_none_iff.2 (after?_eq_none_iff.1 ?_)
  cases t <;> decide +kernel

/-- A value is left untouched exactly if its essence is not that of the vendor, and stands for a
plain type exactly if its subtype has one and none of its parameters asks for a version that is not
served. Another spelling has the same outcome, and the plain type is left untouched itself. -/
theorem plainType_outcome (h : Text.splitAt ';' value = essence :: parameters) :
    (plainType value = .ok none ↔ ¬ Begins vendorStart (normalPart essence)) ∧
    (∀ t, plainType value = .ok (some t) ↔ normalPart essence = vendorStart ++ t.subtype ∧
      ∀ parameter ∈ parameters, ∀ version, normalPart parameter = versionStart ++ version →
        version = "7" ∨ version = "8") ∧
    (∀ value', Respelled value value' →
      (plainType value').toOption = (plainType value).toOption) ∧
    ∀ t : PlainType, plainType t.name = .ok none := by
  refine ⟨?_, fun t => ?_, fun value' h' => plainType_congr h'.readsAlike, plainType_name⟩
  · rw [plainType_eq_none_iff, mediaParts_of_splitAt h, List.headD_cons]
  · rw [plainType_eq_some_iff, mediaParts_of_splitAt h, List.headD_cons, List.tail_cons]
    simp only [List.mem_map, servedVersions, List.mem_cons, List.not_mem_nil, or_false]
    refine and_congr_right fun _ => ⟨fun hserved parameter hmem version heq => ?_, ?_⟩
    · exact hserved version ⟨parameter, hmem, heq⟩
    · rintro hserved version ⟨parameter, hmem, heq⟩
      exact hserved parameter hmem version heq

def plainSpelling : String := "application/vnd.elasticsearch+json; compatible-with=8"

/-- The same value with another parameter before that one, in letters of both cases. -/
def fancySpelling : String :=
  "Application/VND.elasticsearch+JSON;Charset=UTF-8; Compatible-With=8"

theorem respelled_fancySpelling : Respelled plainSpelling fancySpelling := by
  have hcharset : ¬ Begins versionStart (normalPart "charset=utf-8") :=
    after?_eq_none_iff.1 (by decide +kernel)
  have hplain : Text.splitAt ';' plainSpelling =
      "application/vnd.elasticsearch+json" :: ([] ++ [" compatible-with=8"]) := by
    decide +kernel
  have hlarge : Text.splitAt ';'
      "application/vnd.elasticsearch+json;charset=utf-8; compatible-with=8" =
      "application/vnd.elasticsearch+json" ::
        ([] ++ "charset=utf-8" :: [" compatible-with=8"]) := by
    decide +kernel
  exact (Respelled.enlarged hplain hlarge hcharset).trans (.letterCase (by decide +kernel))

theorem plainType_outcome_fancySpelling :
    Text.splitAt ';' plainSpelling =
      ["application/vnd.elasticsearch+json", " compatible-with=8"] ∧
    plainType plainSpelling = .ok (some .json) ∧ Respelled plainSpelling fancySpelling ∧
      (plainType fancySpelling).toOption = some (some .json) := by
  have hparts : Text.splitAt ';' plainSpelling =
      ["application/vnd.elasticsearch+json", " compatible-with=8"] := by
    decide +kernel
  obtain ⟨-, hplain, hspelling, -⟩ := plainType_outcome hparts
  have houtcome : plainType plainSpelling = .ok (some .json) := by
    refine (hplain .json).2 ⟨by decide +kernel, fun parameter hmem version hversion => ?_⟩
    obtain rfl := List.mem_singleton.1 hmem
    have hserved : after? versionStart (normalPart " compatible-with=8") = some "8" := by
      decide +kernel
    rw [after?_eq_some_iff.2 hversion, Option.some_inj] at hserved
    exact .inr hserved
  refine ⟨hparts, houtcome, respelled_fancySpelling, ?_⟩
  rw [hspelling _ respelled_fancySpelling, houtcome]
  rfl

end SearchGateway.Elastic
