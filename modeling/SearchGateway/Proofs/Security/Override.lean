import SearchGateway.Proofs.Security.Decision

/-!
# Overrides and roles with one wording

An override gives an operation a permission, and a role lists the patterns of permissions. Where
both say the same, holders of the role pass exactly if there are no blanks at the ends of what they
say, or if another pattern lets them pass (`Guard.check_worded_alike_iff`): the blanks at its ends
are no part of a permission, but they are part of a pattern.
-/

namespace SearchGateway.Security

open Http (Headers)

/-! ## Patterns and permissions -/

/-- A text as a pattern grants the permission that is left of it when it is trimmed, if it is left
whole. A pattern with a final star that begins with a blank grants only what begins with it. -/
theorem grants_trimmed_iff {text : String} :
    Grants text (Text.trimmed text) ↔ Text.trimmed text = text := by
  constructor
  · intro h
    rcases h with h | ⟨start, rest, htext, htrimmed⟩
    · exact h.symm
    · have htrims : Text.Trims text.toList (Text.trimmed text).toList := by
        rw [Text.trimmed, String.toList_ofList]
        exact Text.trims_trim text.toList
      apply Text.trimmed_eq_self
      · intro c hc
        rw [htext, String.toList_append] at hc
        cases hstart : start.toList with
        | nil =>
            rw [hstart] at hc
            obtain rfl : '*' = c := by simpa using hc
            decide
        | cons first others =>
            -- the first character of the pattern is the one of the permission
            obtain rfl : first = c := by simpa [hstart] using hc
            refine htrims.first first ?_
            rw [htrimmed, String.toList_append, hstart]
            rfl
      · intro c hc
        rw [htext, String.toList_append, List.getLast?_append] at hc
        obtain rfl : '*' = c := by simpa using hc
        decide
  · intro h
    exact .inl h.symm

/-! ## Holders of the role -/

/-- An identity passes for a permission by another pattern of its roles than this one. -/
def HoldsOtherwise (roles : Keyed (List String)) (identity : Identity)
    (pattern permission : String) : Prop :=
  ∃ role ∈ identity.roles, ∃ patterns, roles.get? role = some patterns ∧
    ∃ other ∈ patterns, other ≠ pattern ∧ Grants other permission

theorem holds_iff_of_listed {roles : Keyed (List String)} {identity : Identity}
    {role pattern permission : String} {patterns : List String} (hheld : role ∈ identity.roles)
    (hrole : roles.get? role = some patterns) (hlisted : pattern ∈ patterns) :
    Holds roles identity permission ↔
      Grants pattern permission ∨ HoldsOtherwise roles identity pattern permission := by
  constructor
  · rintro ⟨role', hheld', patterns', hrole', other, hother, hgrants⟩
    by_cases hsame : other = pattern
    · subst hsame
      exact .inl hgrants
    · exact .inr ⟨role', hheld', patterns', hrole', other, hother, hsame, hgrants⟩
  · rintro (hgrants | ⟨role', hheld', patterns', hrole', other, hother, -, hgrants⟩)
    · exact ⟨role, hheld, patterns, hrole, pattern, hlisted, hgrants⟩
    · exact ⟨role', hheld', patterns', hrole', other, hother, hgrants⟩

theorem Settings.permission_of_override {settings : Settings} {operation : Operation}
    {permission : String} (h : settings.overrides.get? operation.token = some permission) :
    settings.permission operation = Text.trimmed permission := by
  rw [Settings.permission, h]

namespace Guard

variable {settings : Settings} {verifier : Verifier} {guard : Guard} {operation : Operation}
  {role permission : String} {patterns : List String} {headers : Headers}
  {credential : Credential} {identity : Identity}

theorem check_of_verified (hguard : withVerifier settings verifier = .ok guard)
    (henabled : settings.enabled = true)
    (hcredential : Credential.ofHeaders? headers = some credential)
    (hverified : verifier credential = some identity) (operation : Operation) :
    (guard.check headers operation = .ok (some identity) ↔
      Holds settings.roles identity (settings.permission operation)) ∧
    (guard.check headers operation = .error (.forbidden operation identity.name) ↔
      ¬ Holds settings.roles identity (settings.permission operation)) := by
  rw [check_eq_ok_iff hguard, check_eq_error_iff hguard]
  refine ⟨⟨fun h => ?_, fun h => .granted henabled hcredential hverified h⟩,
    ⟨fun h => ?_, fun h => .forbidden henabled hcredential hverified h⟩⟩
  · cases h with
    | granted _ _ _ hholds => exact hholds
  · intro hholds
    exact (Entitled.granted henabled hcredential hverified hholds).not_denied h

/-- Where an override and a role of the settings say the same, every identity with the role that is
verified passes for the operation, provided that what they say has no blanks at its ends, that
another pattern of its roles lets it pass, or that the guard is disabled. Otherwise it is denied. -/
theorem check_worded_alike_iff (hguard : withVerifier settings verifier = .ok guard)
    (hoverride : settings.overrides.get? operation.token = some permission)
    (hrole : settings.roles.get? role = some patterns) (hlisted : permission ∈ patterns)
    (hcredential : Credential.ofHeaders? headers = some credential)
    (hverified : verifier credential = some identity) (hheld : role ∈ identity.roles) :
    (settings.enabled = false → guard.check headers operation = .ok none) ∧
    (settings.enabled = true →
      (guard.check headers operation = .ok (some identity) ↔
        Text.trimmed permission = permission ∨
          HoldsOtherwise settings.roles identity permission (Text.trimmed permission)) ∧
      (guard.check headers operation = .error (.forbidden operation identity.name) ↔
        Text.trimmed permission ≠ permission ∧
          ¬ HoldsOtherwise settings.roles identity permission (Text.trimmed permission))) := by
  constructor
  · intro hdisabled
    exact (check_eq_ok_iff hguard).2 (.disabled hdisabled)
  · intro henabled
    have hholds : Holds settings.roles identity (settings.permission operation) ↔
        Text.trimmed permission = permission ∨
          HoldsOtherwise settings.roles identity permission (Text.trimmed permission) := by
      rw [Settings.permission_of_override hoverride, holds_iff_of_listed hheld hrole hlisted,
        grants_trimmed_iff]
    obtain ⟨hok, herror⟩ := check_of_verified hguard henabled hcredential hverified operation
    rw [hok, herror, hholds, not_or]
    exact ⟨Iff.rfl, Iff.rfl⟩

/-! ## A role of one pattern -/

/-- Settings with one account, whose role lists just what searching is made to need. -/
def searcherSettings (permission : String) : Settings where
  apiKeys := [⟨"key-1", "alice", ["searcher"]⟩]
  roles := .ofList [("searcher", [permission])]
  overrides := .ofList [("search.SearchDSL", permission)]

def searcherVerifier (permission : String) : Verifier :=
  (Directory.ofSettings (searcherSettings permission)).verify

def searcherHeaders : Headers :=
  [("authorization", Text.Utf8.encode "Bearer key-1")]

def searcher : Identity :=
  ⟨"alice", ["searcher"], "key-1"⟩

theorem verified_searcher (permission : String) :
    Credential.ofHeaders? searcherHeaders = some (.apiKey "key-1") ∧
      searcherVerifier permission (.apiKey "key-1") = some searcher := by
  constructor
  · decide +kernel
  · rfl

theorem exists_searcherGuard (hnamed : ∃ c ∈ permission.toList, Text.isBlank c = false) :
    ∃ guard, withVerifier (searcherSettings permission) (searcherVerifier permission) =
      .ok guard := by
  have hacceptable : ∀ entry ∈ (searcherSettings permission).overrides.entries,
      Requirements.Acceptable entry := by
    intro entry hentry
    obtain rfl := List.mem_singleton.1 hentry
    exact ⟨⟨.searchDSL, rfl⟩, hnamed⟩
  obtain ⟨requirements, hbuild⟩ := Requirements.exists_build hacceptable
  exact ⟨_, by rw [withVerifier, hbuild]; rfl⟩

/-- Blanks within a permission and a final star do no harm. -/
theorem check_worded_alike_star :
    ∃ guard, withVerifier (searcherSettings "read all*") (searcherVerifier "read all*") =
        .ok guard ∧
      (searcherSettings "read all*").overrides.get? Operation.searchDSL.token =
        some "read all*" ∧
      (searcherSettings "read all*").roles.get? "searcher" = some ["read all*"] ∧
      guard.check searcherHeaders .searchDSL = .ok (some searcher) := by
  have hnamed : ∃ c ∈ "read all*".toList, Text.isBlank c = false :=
    ⟨'r', by decide, by decide⟩
  obtain ⟨guard, hguard⟩ := exists_searcherGuard hnamed
  obtain ⟨hcredential, hverified⟩ := verified_searcher "read all*"
  have hoverride : (searcherSettings "read all*").overrides.get? Operation.searchDSL.token =
      some "read all*" := rfl
  have hrole : (searcherSettings "read all*").roles.get? "searcher" = some ["read all*"] := rfl
  have hcheck := check_worded_alike_iff hguard hoverride hrole List.mem_cons_self hcredential
    hverified List.mem_cons_self
  exact ⟨guard, hguard, hoverride, hrole, (hcheck.2 rfl).1.2 (.inl (by decide +kernel))⟩

/-- A blank before the permission keeps the holders of the role from passing. -/
theorem denied_worded_alike :
    ¬ ∀ (settings : Settings) (verifier : Verifier) (guard : Guard) (operation : Operation)
        (permission role : String) (patterns : List String),
      withVerifier settings verifier = .ok guard →
      settings.overrides.get? operation.token = some permission →
      settings.roles.get? role = some patterns → permission ∈ patterns →
      ∀ headers credential identity, Credential.ofHeaders? headers = some credential →
        verifier credential = some identity → role ∈ identity.roles →
          ∃ caller, guard.check headers operation = .ok caller := by
  intro hpasses
  have hnamed : ∃ c ∈ " search".toList, Text.isBlank c = false := ⟨'s', by decide, by decide⟩
  obtain ⟨guard, hguard⟩ := exists_searcherGuard hnamed
  obtain ⟨hcredential, hverified⟩ := verified_searcher " search"
  have hlacks : ¬ Holds (searcherSettings " search").roles searcher
      ((searcherSettings " search").permission .searchDSL) := by
    rw [← permits_iff]
    decide +kernel
  have hdenied := (check_of_verified hguard rfl hcredential hverified .searchDSL).2.2 hlacks
  obtain ⟨caller, hcaller⟩ := hpasses (searcherSettings " search") (searcherVerifier " search")
    guard .searchDSL " search" "searcher" [" search"] hguard rfl rfl List.mem_cons_self
    searcherHeaders (.apiKey "key-1") searcher hcredential hverified List.mem_cons_self
  rw [hcaller] at hdenied
  cases hdenied

end Guard

end SearchGateway.Security
