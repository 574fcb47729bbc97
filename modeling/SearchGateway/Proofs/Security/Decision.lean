import SearchGateway.Proofs.Security.Requirements
import SearchGateway.Proofs.Text.Pattern
import SearchGateway.Security.Guard

/-!
# Decisions about callers

Who is entitled and who is denied follows from the settings and the verifier. The guard of the
settings decides accordingly: it denies exactly those who are denied (`check_eq_error_iff`) and
takes nobody for a caller who is not entitled (`check_eq_ok_iff`).
-/

namespace SearchGateway.Security

open Http (Headers)

/-! ## Patterns -/

/-- A pattern grants a permission that it equals, or that begins with what stands before its final
star. -/
def Grants (pattern permission : String) : Prop :=
  pattern = permission ∨ ∃ start rest, pattern = start ++ "*" ∧ permission = start ++ rest

theorem covers_iff {pattern permission : String} :
    Text.covers pattern permission = true ↔ Grants pattern permission := by
  unfold Text.covers Grants
  cases hstem : Text.stem? pattern with
  | none =>
      simp only [beq_iff_eq]
      refine ⟨.inl, fun h => h.elim id ?_⟩
      rintro ⟨start, rest, rfl, -⟩
      rw [← String.ofList_toList (s := start), Text.stem?_eq_some_iff.2 rfl] at hstem
      cases hstem
  | some stem =>
      have hpattern := Text.stem?_eq_some_iff.1 hstem
      simp only [List.isPrefixOf_iff_prefix]
      constructor
      · rintro ⟨rest, hrest⟩
        refine .inr ⟨String.ofList stem, String.ofList rest, hpattern, String.toList_injective ?_⟩
        simp [hrest]
      · rintro (rfl | ⟨start, rest, hstart, rfl⟩)
        · simp [hpattern]
        · have hsame : start.toList = stem := by
            have := congrArg String.toList (hstart.symm.trans hpattern)
            simpa using this
          simp [← hsame]

/-! ## Callers -/

/-- A role of the identity has a pattern that grants the permission. -/
def Holds (roles : Keyed (List String)) (identity : Identity) (permission : String) : Prop :=
  ∃ role ∈ identity.roles, ∃ patterns, roles.get? role = some patterns ∧
    ∃ pattern ∈ patterns, Grants pattern permission

theorem permits_iff {roles : Keyed (List String)} {identity : Identity} {permission : String} :
    permits roles identity.roles permission = true ↔ Holds roles identity permission := by
  simp only [permits, List.any_eq_true, Holds]
  refine exists_congr fun role => and_congr_right fun _ => ?_
  cases roles.get? role with
  | none => simp
  | some patterns => simp [covers_iff]

/-- Whom a request with these headers is made for, if it may perform an operation. -/
inductive Entitled (settings : Settings) (verifier : Verifier) (headers : Headers)
    (operation : Operation) : Option Identity → Prop where
  | disabled : settings.enabled = false → Entitled settings verifier headers operation none
  | granted {credential identity} : settings.enabled = true →
      Credential.ofHeaders? headers = some credential → verifier credential = some identity →
      Holds settings.roles identity (settings.permission operation) →
        Entitled settings verifier headers operation (some identity)

/-- Why a request with these headers may not perform an operation. -/
inductive Denied (settings : Settings) (verifier : Verifier) (headers : Headers)
    (operation : Operation) : Denial → Prop where
  | noCredential : settings.enabled = true → Credential.ofHeaders? headers = none →
      Denied settings verifier headers operation .noCredential
  | unknownCredential {credential} : settings.enabled = true →
      Credential.ofHeaders? headers = some credential → verifier credential = none →
        Denied settings verifier headers operation .unknownCredential
  | forbidden {credential identity} : settings.enabled = true →
      Credential.ofHeaders? headers = some credential → verifier credential = some identity →
      ¬ Holds settings.roles identity (settings.permission operation) →
        Denied settings verifier headers operation (.forbidden operation identity.name)

variable {settings : Settings} {verifier : Verifier} {headers : Headers} {operation : Operation}
  {guard : Guard} {identity : Option Identity} {denial : Denial}

theorem Entitled.not_denied (h : Entitled settings verifier headers operation identity) :
    ¬ Denied settings verifier headers operation denial := by
  intro hdenied
  cases h <;> cases hdenied <;> simp_all

theorem Entitled.unique {identity' : Option Identity}
    (h : Entitled settings verifier headers operation identity)
    (h' : Entitled settings verifier headers operation identity') : identity = identity' := by
  cases h <;> cases h' <;> simp_all

theorem Denied.unique {denial' : Denial} (h : Denied settings verifier headers operation denial)
    (h' : Denied settings verifier headers operation denial') : denial = denial' := by
  cases h <;> cases h' <;> simp_all

/-! ## The guard -/

theorem withVerifier_eq_ok (h : Guard.withVerifier settings verifier = .ok guard) :
    ∃ requirements, Requirements.build settings.overrides = .ok requirements ∧
      guard = { enabled := settings.enabled, verifier, roles := settings.roles, requirements } := by
  unfold Guard.withVerifier at h
  cases hbuild : Requirements.build settings.overrides with
  | error e =>
      rw [hbuild] at h
      cases h
  | ok requirements =>
      rw [hbuild] at h
      cases h
      exact ⟨requirements, rfl, rfl⟩

/-- The guard of the settings decides by the settings and the verifier. -/
theorem check_decides (h : Guard.withVerifier settings verifier = .ok guard) (headers : Headers)
    (operation : Operation) :
    (∃ identity, guard.check headers operation = .ok identity ∧
      Entitled settings verifier headers operation identity) ∨
    (∃ denial, guard.check headers operation = .error denial ∧
      Denied settings verifier headers operation denial) := by
  obtain ⟨requirements, hbuild, rfl⟩ := withVerifier_eq_ok h
  unfold Guard.check
  cases henabled : settings.enabled with
  | false => exact .inl ⟨none, rfl, .disabled henabled⟩
  | true =>
      cases hcredential : Credential.ofHeaders? headers with
      | none => exact .inr ⟨_, rfl, .noCredential henabled hcredential⟩
      | some credential =>
          simp only [Bool.not_true, Bool.false_eq_true, if_false]
          cases hidentity : verifier credential with
          | none => exact .inr ⟨_, rfl, .unknownCredential henabled hcredential hidentity⟩
          | some identity =>
              have hpermits : permits settings.roles identity.roles
                    (settings.permission operation) = true ↔
                  Holds settings.roles identity (settings.permission operation) := permits_iff
              simp only [Requirements.permission_of_build hbuild operation]
              split
              · rename_i hholds
                exact .inl ⟨_, rfl, .granted henabled hcredential hidentity (hpermits.1 hholds)⟩
              · rename_i hholds
                exact .inr ⟨_, rfl, .forbidden henabled hcredential hidentity
                  fun hgranted => hholds (hpermits.2 hgranted)⟩

theorem check_eq_ok_iff (h : Guard.withVerifier settings verifier = .ok guard) :
    guard.check headers operation = .ok identity ↔
      Entitled settings verifier headers operation identity := by
  rcases check_decides h headers operation with
    ⟨identity', hcheck, hentitled⟩ | ⟨denial, hcheck, hdenied⟩
  · rw [hcheck, Except.ok.injEq]
    exact ⟨fun heq => heq ▸ hentitled, fun h => hentitled.unique h⟩
  · rw [hcheck]
    exact ⟨nofun, fun h => absurd hdenied h.not_denied⟩

theorem check_eq_error_iff (h : Guard.withVerifier settings verifier = .ok guard) :
    guard.check headers operation = .error denial ↔
      Denied settings verifier headers operation denial := by
  rcases check_decides h headers operation with
    ⟨identity, hcheck, hentitled⟩ | ⟨denial', hcheck, hdenied⟩
  · rw [hcheck]
    exact ⟨nofun, fun h => absurd h hentitled.not_denied⟩
  · rw [hcheck, Except.error.injEq]
    exact ⟨fun heq => heq ▸ hdenied, fun h => hdenied.unique h⟩

/-! ## Whom a credential names -/

/-- Whom a request with these headers is made for, if it is admitted. The operation does not matter
for that. -/
def Guard.caller? (guard : Guard) (headers : Headers) : Option Identity :=
  if guard.enabled then (Credential.ofHeaders? headers).bind guard.verifier else none

theorem Guard.eq_caller?_of_check (h : guard.check headers operation = .ok identity) :
    identity = guard.caller? headers := by
  unfold Guard.check at h
  unfold Guard.caller?
  cases henabled : guard.enabled with
  | false =>
      simp only [henabled, Bool.not_false, if_true, Except.ok.injEq] at h
      simp [h]
  | true =>
      simp only [henabled, Bool.not_true, Bool.false_eq_true, if_false] at h
      cases hcredential : Credential.ofHeaders? headers with
      | none => simp [hcredential] at h
      | some credential =>
          simp only [hcredential] at h
          cases hverified : guard.verifier credential with
          | none => simp [hverified] at h
          | some caller =>
              simp only [hverified] at h
              split at h <;> cases h
              simp [hverified]

/-- No other header says whom a request is made for. -/
theorem Guard.caller?_congr {headers' : Headers}
    (h : headers'.first? "authorization" = headers.first? "authorization") :
    guard.caller? headers' = guard.caller? headers := by
  simp only [Guard.caller?, Credential.ofHeaders?, h]

end SearchGateway.Security
