import SearchGateway.Proofs.Http.Headers

/-!
# Which origins are admitted

The entries of a policy that no header can hold do not count: an origin is admitted exactly if it is
an entry itself or any origin is (`OriginPolicy.allows_iff`), and policies with the same entries but
for these stamp every response alike (`OriginPolicy.stamp_congr_policy`).
-/

namespace SearchGateway.Http

/-- Bytes that the value of a header can have. -/
def IsFieldValue (value : Bytes) : Prop :=
  ∀ b ∈ value, isFieldByte b

namespace OriginPolicy

/-- An origin may read responses: it is configured, or any origin is. -/
def Admits (p : OriginPolicy) (origin : Bytes) : Prop :=
  p.enabled = true ∧
    (anyOrigin ∈ p.origins ∨ ∃ text ∈ p.origins, Text.Utf8.encode text = origin)

/-- Two policies have the same entries, but for those that no header can hold. -/
structure SameUsable (p q : OriginPolicy) : Prop where
  enabled : p.enabled = q.enabled
  origins : ∀ text, IsFieldValue (Text.Utf8.encode text) → (text ∈ p.origins ↔ text ∈ q.origins)

variable {p q : OriginPolicy} {origin : Bytes} {request : Request} {response : Response}

theorem isFieldValue_anyOrigin : IsFieldValue (Text.Utf8.encode anyOrigin) := by
  unfold IsFieldValue
  decide +kernel

theorem allowsAny_iff : p.allowsAny = true ↔ anyOrigin ∈ p.origins := by
  rw [allowsAny, List.contains_iff_mem]

theorem mem_usable_iff : origin ∈ p.usable ↔
    IsFieldValue origin ∧
      ∃ text ∈ p.origins, text ≠ anyOrigin ∧ Text.Utf8.encode text = origin := by
  simp only [usable, List.mem_filter, List.mem_map, List.all_eq_true, decide_eq_true_eq]
  exact ⟨fun ⟨⟨text, ⟨hmem, hne⟩, htext⟩, hvalue⟩ => ⟨hvalue, text, hmem, hne, htext⟩,
    fun ⟨hvalue, text, hmem, hne, htext⟩ => ⟨⟨text, ⟨hmem, hne⟩, htext⟩, hvalue⟩⟩

/-- A policy without a usable entry admits nobody, so that it need not be asked whether it has
one. -/
theorem allows_eq_true_iff : p.allows origin = true ↔
    p.enabled = true ∧ (p.allowsAny = true ∨ origin ∈ p.usable) := by
  have hempty : origin ∈ p.usable → p.usable.isEmpty = false := by
    cases p.usable <;> simp
  simp only [allows, isActive, Bool.and_eq_true, Bool.or_eq_true, Bool.not_eq_true',
    List.contains_iff_mem, and_assoc, and_congr_right_iff]
  exact fun _ => ⟨And.right, fun h => ⟨h.imp_right hempty, h⟩⟩

/-- An origin that a header can hold is admitted exactly if it is configured or any origin is. -/
theorem allows_iff (hvalue : IsFieldValue origin) : p.allows origin = true ↔ p.Admits origin := by
  rw [allows_eq_true_iff, Admits, allowsAny_iff, mem_usable_iff, and_congr_right_iff]
  intro _
  constructor
  · rintro (hany | ⟨-, text, hmem, -, htext⟩)
    · exact .inl hany
    · exact .inr ⟨text, hmem, htext⟩
  · rintro (hany | ⟨text, hmem, htext⟩)
    · exact .inl hany
    · by_cases hstar : text = anyOrigin
      · exact .inl (hstar ▸ hmem)
      · exact .inr ⟨hvalue, text, hmem, hstar, htext⟩

theorem allows_eq_false
    (h : p.enabled = false ∨ ∀ text ∈ p.origins, ¬ IsFieldValue (Text.Utf8.encode text)) :
    p.allows origin = false := by
  rw [Bool.eq_false_iff, Ne, allows_eq_true_iff]
  rintro ⟨henabled, hallowed⟩
  rcases h with hdisabled | hunusable
  · rw [henabled] at hdisabled
    cases hdisabled
  · rcases hallowed with hany | husable
    · exact hunusable anyOrigin (allowsAny_iff.1 hany) isFieldValue_anyOrigin
    · obtain ⟨hvalue, text, hmem, -, rfl⟩ := mem_usable_iff.1 husable
      exact hunusable text hmem hvalue

/-! ## Entries that do not count -/

theorem SameUsable.allowsAny_eq (h : SameUsable p q) : p.allowsAny = q.allowsAny := by
  rw [Bool.eq_iff_iff, allowsAny_iff, allowsAny_iff]
  exact h.origins anyOrigin isFieldValue_anyOrigin

theorem SameUsable.mem_usable_iff (h : SameUsable p q) : origin ∈ p.usable ↔ origin ∈ q.usable := by
  rw [OriginPolicy.mem_usable_iff, OriginPolicy.mem_usable_iff, and_congr_right_iff]
  rintro hvalue
  refine exists_congr fun text => ?_
  constructor
  · rintro ⟨hmem, hne, rfl⟩
    exact ⟨(h.origins text hvalue).1 hmem, hne, rfl⟩
  · rintro ⟨hmem, hne, rfl⟩
    exact ⟨(h.origins text hvalue).2 hmem, hne, rfl⟩

theorem SameUsable.isActive_eq (h : SameUsable p q) : p.isActive = q.isActive := by
  have hempty : p.usable.isEmpty = q.usable.isEmpty := by
    rw [Bool.eq_iff_iff, List.isEmpty_iff, List.isEmpty_iff, List.eq_nil_iff_forall_not_mem,
      List.eq_nil_iff_forall_not_mem]
    simp only [h.mem_usable_iff]
  rw [isActive, isActive, h.enabled, h.allowsAny_eq, hempty]

theorem SameUsable.allows_eq (h : SameUsable p q) : p.allows origin = q.allows origin := by
  rw [Bool.eq_iff_iff, allows_eq_true_iff, allows_eq_true_iff, h.enabled, h.allowsAny_eq,
    h.mem_usable_iff]

theorem stamp_congr_policy (h : SameUsable p q) :
    p.stamp request response = q.stamp request response := by
  simp only [stamp, sharedHeaders, exposingHeaders, originHeader, h.isActive_eq, h.allows_eq]

/-! ## The header for the admitted origin -/

/-- The values of the header that names the origin that may read a response. -/
def admitted (response : Response) : List Bytes :=
  response.headers.values "access-control-allow-origin"

theorem admitted_stamp (horigin : request.headers.first? "origin" = some origin) :
    admitted (p.stamp request response) =
      admitted response ++ if p.allows origin then [origin] else [] := by
  have hothers : Headers.values (texts [("vary", varyValue)] ++
      if p.isActive then texts [("access-control-allow-credentials", "true")] else [])
      "access-control-allow-origin" = [] := by
    cases p.isActive <;> rfl
  have hexposing : Headers.values p.exposingHeaders "access-control-allow-origin" = [] := by
    unfold exposingHeaders
    cases p.isActive <;> rfl
  have hnamed : Headers.values (p.originHeader request) "access-control-allow-origin" =
      if p.allows origin then [origin] else [] := by
    simp only [originHeader, horigin]
    cases p.allows origin <;> rfl
  simp only [admitted, stamp, sharedHeaders, Headers.values_append] at hothers ⊢
  rw [hothers, hexposing, hnamed, List.append_nil, List.nil_append]

end OriginPolicy

end SearchGateway.Http
