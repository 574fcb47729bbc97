import SearchGateway.Proofs.Lists
import SearchGateway.Proofs.Outcome
import SearchGateway.Proofs.Text.Blank
import SearchGateway.Security.Requirements
import SearchGateway.Security.Settings

/-!
# Registered permissions

The table of required permissions has the override of the settings for an operation, without the
blanks around it, or else the token of the operation (`permission_of_build`). It can be built
exactly if each override is for an operation and has more than blanks for a permission. The order
in which overrides are set does not matter, since each is for another operation, and no operation is
left without a permission (`Requirements.built_iff`).
-/

namespace SearchGateway.Security

/-- The permission that the settings register for an operation. -/
def Settings.permission (settings : Settings) (operation : Operation) : String :=
  match settings.overrides.get? operation.token with
  | some permission => Text.trimmed permission
  | none => operation.token

namespace Requirements

variable {requirements : Requirements} {operation : Operation} {table table' : Keyed String}
  {entry : String × String} {entries : List (String × String)} {overrides : Keyed String}
  {e : RequirementError}

/-! ## Tokens -/

theorem token_of_parse {token : String} (h : Operation.parse token = .ok operation) :
    operation.token = token := by
  unfold Operation.parse at h
  split at h
  · rename_i found hfound
    cases h
    simpa using List.find?_some hfound
  · cases h

theorem nodup_tokens : (Operation.all.map Operation.token).Nodup := by
  decide +kernel

theorem token_injective {operation operation' : Operation}
    (h : operation.token = operation'.token) : operation = operation' :=
  List.inj_on_of_nodup_map nodup_tokens (Operation.mem_all _) (Operation.mem_all _) h

theorem token_ne_empty (operation : Operation) : operation.token ≠ "" := by
  cases operation <;> decide

theorem ofToken?_token (operation : Operation) :
    Operation.ofToken? operation.token = some operation := by
  cases hfind : Operation.ofToken? operation.token with
  | none =>
      have hall := List.find?_eq_none.1 hfind operation (Operation.mem_all operation)
      simp at hall
  | some found =>
      have htoken : found.token = operation.token := by simpa using List.find?_some hfind
      rw [token_injective htoken]

theorem parse_eq_ok_iff {token : String} :
    Operation.parse token = .ok operation ↔ operation.token = token := by
  constructor
  · exact token_of_parse
  · rintro rfl
    simp only [Operation.parse, ofToken?_token]

theorem parse_eq_error {token : String} (h : Operation.parse token = .error e) :
    e = .unknownOperation token ∧ ∀ operation : Operation, operation.token ≠ token := by
  refine ⟨?_, fun operation htoken => ?_⟩
  · unfold Operation.parse at h
    split at h <;> cases h
    rfl
  · rw [parse_eq_ok_iff.2 htoken] at h
    cases h

/-! ## One override -/

/-- An override is for an operation and names a permission. -/
structure Acceptable (entry : String × String) : Prop where
  known : ∃ operation : Operation, operation.token = entry.1
  named : ∃ c ∈ entry.2.toList, Text.isBlank c = false

/-- Why an override is refused. -/
inductive Refused (entry : String × String) : RequirementError → Prop where
  | unknown : (∀ operation : Operation, operation.token ≠ entry.1) →
      Refused entry (.unknownOperation entry.1)
  | unnamed {operation : Operation} : operation.token = entry.1 →
      (∀ c ∈ entry.2.toList, Text.isBlank c = true) → Refused entry (.emptyPermission operation)

theorem trimmed_ne_empty_iff {text : String} :
    Text.trimmed text ≠ "" ↔ ∃ c ∈ text.toList, Text.isBlank c = false := by
  rw [ne_eq, Text.trimmed_eq_empty_iff]
  simp

theorem override_eq_ok_iff : override table entry = .ok table' ↔
    Acceptable entry ∧ table' = table.insert entry.1 (Text.trimmed entry.2) := by
  constructor
  · intro h
    obtain ⟨operation, hparse, h⟩ := bind_eq_ok_iff.1 h
    have hknown := token_of_parse hparse
    dsimp only at h
    split at h
    · cases h
    · rename_i hnamed
      cases h
      rw [hknown]
      exact ⟨⟨⟨operation, hknown⟩, trimmed_ne_empty_iff.1 hnamed⟩, rfl⟩
  · rintro ⟨⟨⟨operation, hknown⟩, hnamed⟩, rfl⟩
    have hpermission := trimmed_ne_empty_iff.2 hnamed
    simp only [override, parse_eq_ok_iff.2 hknown, ok_bind, if_neg hpermission, hknown, pure_eq_ok]

theorem refused_of_override (h : override table entry = .error e) : Refused entry e := by
  rcases bind_eq_error_iff.1 h with h | ⟨operation, hparse, h⟩
  · obtain ⟨rfl, hunknown⟩ := parse_eq_error h
    exact .unknown hunknown
  · dsimp only at h
    split at h
    · rename_i hblank
      cases h
      exact .unnamed (token_of_parse hparse) (Text.trimmed_eq_empty_iff.1 hblank)
    · cases h

/-! ## Several overrides -/

/-- A table with the permissions of overrides in the place of those it had. -/
def setAll (table : Keyed String) (entries : List (String × String)) : Keyed String :=
  (entries.map fun entry => (entry.1, Text.trimmed entry.2)).foldl
    (fun table entry => table.insert entry.1 entry.2) table

/-- Overrides that are accepted are set one after the other. -/
theorem foldlM_override_eq_ok_iff : entries.foldlM override table = .ok table' ↔
    (∀ entry ∈ entries, Acceptable entry) ∧ table' = setAll table entries := by
  rw [setAll, List.foldl_map]
  exact foldlM_eq_ok_iff (P := fun _ => Acceptable) (fun _ _ _ => override_eq_ok_iff)
    fun _ _ _ => Iff.rfl

theorem refused_of_foldlM (h : entries.foldlM override table = .error e) :
    ∃ entry ∈ entries, Refused entry e := by
  induction entries generalizing table with
  | nil => cases h
  | cons entry entries ih =>
      rw [List.foldlM_cons] at h
      rcases bind_eq_error_iff.1 h with h | ⟨next, -, h⟩
      · exact ⟨entry, List.mem_cons_self, refused_of_override h⟩
      · obtain ⟨other, hother, hrefused⟩ := ih h
        exact ⟨other, List.mem_cons_of_mem _ hother, hrefused⟩

theorem get?_setAll {token permission : String} (h : (entries.map (·.1)).Nodup) :
    (setAll table entries).get? token = some permission ↔
      (∃ value, (token, value) ∈ entries ∧ Text.trimmed value = permission) ∨
        token ∉ entries.map (·.1) ∧ table.get? token = some permission := by
  have hkeys : (entries.map fun entry => (entry.1, Text.trimmed entry.2)).map (·.1) =
      entries.map (·.1) := by
    rw [List.map_map]
    rfl
  rw [setAll, Keyed.get?_foldl_insert (hkeys ▸ h), hkeys]
  simp

theorem setAll_perm {order : List (String × String)} (horder : order.Perm entries)
    (h : (entries.map (·.1)).Nodup) : setAll table order = setAll table entries := by
  have hkeys := horder.map (·.1)
  refine Keyed.ext_get? fun token => Option.ext fun permission => ?_
  rw [get?_setAll h, get?_setAll (hkeys.nodup_iff.2 h)]
  simp only [horder.mem_iff, hkeys.mem_iff]

/-! ## The whole table -/

theorem get?_defaults (operation : Operation) :
    defaults.get? operation.token = some operation.token := by
  have hdistinct : ((Operation.all.map fun operation => (operation.token, operation.token)).map
      (·.1)).Nodup := by
    simpa [List.map_map, Function.comp_def] using nodup_tokens
  rw [defaults, Keyed.get?_ofList hdistinct]
  exact List.mem_map.2 ⟨operation, Operation.mem_all operation, rfl⟩

/-- The table has the permission that the overrides name for an operation, or else its token. -/
theorem get?_setAll_defaults (overrides : Keyed String) (operation : Operation) :
    (setAll defaults overrides.entries).get? operation.token =
      some (((overrides.get? operation.token).map Text.trimmed).getD operation.token) := by
  rw [get?_setAll overrides.nodup_keys]
  cases hoverride : overrides.get? operation.token with
  | some value => exact .inl ⟨value, Keyed.get?_eq_some_iff.1 hoverride, rfl⟩
  | none =>
      refine .inr ⟨fun hmem => ?_, get?_defaults operation⟩
      obtain ⟨⟨token, value⟩, hentry, rfl⟩ := List.mem_map.1 hmem
      rw [Keyed.get?_eq_some_iff.2 hentry] at hoverride
      cases hoverride

theorem isMapped_iff : isMapped table operation = true ↔
    ∃ permission, table.get? operation.token = some permission ∧ permission ≠ "" := by
  unfold isMapped
  split <;> simp [*]

theorem isMapped_defaults (operation : Operation) : isMapped defaults operation = true :=
  isMapped_iff.2 ⟨_, get?_defaults operation, token_ne_empty operation⟩

theorem isMapped_setAll (h : ∀ entry ∈ overrides.entries, Acceptable entry)
    (operation : Operation) : isMapped (setAll defaults overrides.entries) operation = true := by
  refine isMapped_iff.2 ⟨_, get?_setAll_defaults overrides operation, ?_⟩
  cases hoverride : overrides.get? operation.token with
  | some value => exact trimmed_ne_empty_iff.2 (h _ (Keyed.get?_eq_some_iff.1 hoverride)).named
  | none => exact token_ne_empty operation

/-- The requirements without overrides. -/
def ofTokens : Requirements :=
  ⟨defaults, isMapped_defaults⟩

theorem build_eq_ok_iff : build overrides = .ok requirements ↔
    (∀ entry ∈ overrides.entries, Acceptable entry) ∧
      requirements.table = setAll defaults overrides.entries := by
  rw [← foldlM_override_eq_ok_iff]
  constructor
  · intro h
    obtain ⟨table, htable, h⟩ := bind_eq_ok_iff.1 h
    split at h
    · cases h
    · cases h
      exact htable
  · intro htable
    have hcomplete : Operation.all.find? (!isMapped requirements.table ·) = none :=
      List.find?_eq_none.2 fun operation _ => by simp [requirements.complete operation]
    refine bind_eq_ok_iff.2 ⟨_, htable, ?_⟩
    split
    · rename_i hfind
      rw [hcomplete] at hfind
      cases hfind
    · rfl

theorem exists_build (h : ∀ entry ∈ overrides.entries, Acceptable entry) :
    ∃ requirements, build overrides = .ok requirements :=
  ⟨⟨setAll defaults overrides.entries, isMapped_setAll h⟩, build_eq_ok_iff.2 ⟨h, rfl⟩⟩

/-- It is an override that keeps the table from being built; the final check finds nothing. -/
theorem refused_of_build (h : build overrides = .error e) :
    ∃ entry ∈ overrides.entries, Refused entry e := by
  rcases bind_eq_error_iff.1 h with hfold | ⟨table, hfold, -⟩
  · exact refused_of_foldlM hfold
  · obtain ⟨requirements, hbuild⟩ := exists_build (foldlM_override_eq_ok_iff.1 hfold).1
    rw [hbuild] at h
    cases h

theorem get?_table (requirements : Requirements) (operation : Operation) :
    requirements.table.get? operation.token = some (requirements.permission operation) := by
  unfold permission
  split
  · assumption
  · rename_i hnone
    have hmapped := requirements.complete operation
    simp [isMapped, hnone] at hmapped

theorem permission_eq_of_build (h : build overrides = .ok requirements) (operation : Operation) :
    requirements.permission operation =
      ((overrides.get? operation.token).map Text.trimmed).getD operation.token := by
  have hget := get?_table requirements operation
  rw [(build_eq_ok_iff.1 h).2, get?_setAll_defaults] at hget
  exact (Option.some.inj hget).symm

theorem permission_of_build {settings : Settings}
    (h : Requirements.build settings.overrides = .ok requirements) (operation : Operation) :
    requirements.permission operation = settings.permission operation := by
  rw [permission_eq_of_build h, Settings.permission]
  cases settings.overrides.get? operation.token <;> rfl

/-! ## When the table is built -/

theorem forall_acceptable_iff : (∀ entry ∈ overrides.entries, Acceptable entry) ↔
    ∀ token permission, overrides.get? token = some permission →
      (∃ operation : Operation, operation.token = token) ∧
        ∃ c ∈ permission.toList, Text.isBlank c = false := by
  simp only [Keyed.get?_eq_some_iff]
  constructor
  · intro h token permission hentry
    obtain ⟨hknown, hnamed⟩ := h _ hentry
    exact ⟨hknown, hnamed⟩
  · rintro h ⟨token, permission⟩ hentry
    obtain ⟨hknown, hnamed⟩ := h _ _ hentry
    exact ⟨hknown, hnamed⟩

theorem foldlM_perm {order : List (String × String)} (horder : order.Perm overrides.entries) :
    order.foldlM override defaults = .ok table ↔
      ∃ requirements, build overrides = .ok requirements ∧ requirements.table = table := by
  rw [foldlM_override_eq_ok_iff, setAll_perm horder overrides.nodup_keys]
  simp only [horder.mem_iff]
  constructor
  · rintro ⟨hall, rfl⟩
    obtain ⟨requirements, hbuild⟩ := exists_build hall
    exact ⟨requirements, hbuild, (build_eq_ok_iff.1 hbuild).2⟩
  · rintro ⟨requirements, hbuild, rfl⟩
    exact build_eq_ok_iff.1 hbuild

/-- The table is built exactly if every override is for an operation and names a permission, in
whatever order the overrides are set. Otherwise one of them is to blame, and never an operation
without a permission. The table that is built has a permission for every operation, which is not
empty: the one that the overrides name, without the blanks around it, or else the token. -/
theorem built_iff (overrides : Keyed String) :
    ((∃ requirements, build overrides = .ok requirements) ↔
      ∀ token permission, overrides.get? token = some permission →
        (∃ operation : Operation, operation.token = token) ∧
          ∃ c ∈ permission.toList, Text.isBlank c = false) ∧
    (∀ order : List (String × String), order.Perm overrides.entries →
      (∀ table, order.foldlM override defaults = .ok table ↔
        ∃ requirements, build overrides = .ok requirements ∧ requirements.table = table) ∧
      ∀ e, order.foldlM override defaults = .error e →
        ∃ entry ∈ overrides.entries, Refused entry e) ∧
    (∀ e, build overrides = .error e → (∃ entry ∈ overrides.entries, Refused entry e) ∧
      ∀ operation, e ≠ .unmapped operation) ∧
    ∀ requirements, build overrides = .ok requirements → ∀ operation : Operation,
      requirements.table.get? operation.token = some (requirements.permission operation) ∧
        requirements.permission operation ≠ "" ∧
        requirements.permission operation =
          ((overrides.get? operation.token).map Text.trimmed).getD operation.token := by
  refine ⟨?_, fun order horder => ⟨fun table => foldlM_perm horder, fun e h => ?_⟩, fun e h => ?_,
    fun requirements h operation => ?_⟩
  · rw [← forall_acceptable_iff]
    exact ⟨fun ⟨requirements, h⟩ => (build_eq_ok_iff.1 h).1, exists_build⟩
  · obtain ⟨entry, hentry, hrefused⟩ := refused_of_foldlM h
    exact ⟨entry, horder.mem_iff.1 hentry, hrefused⟩
  · obtain ⟨entry, hentry, hrefused⟩ := refused_of_build h
    refine ⟨⟨entry, hentry, hrefused⟩, fun operation hunmapped => ?_⟩
    rw [hunmapped] at hrefused
    cases hrefused
  · have hget := get?_table requirements operation
    obtain ⟨permission, hpermission, hne⟩ := isMapped_iff.1 (requirements.complete operation)
    rw [hget] at hpermission
    cases hpermission
    exact ⟨hget, hne, permission_eq_of_build h operation⟩

/-- Two overrides, in the order in which one might come upon them. -/
def someOverrides : List (String × String) :=
  [("search.SearchV1", " search\t"), ("index.Delete", "purge")]

/-- Two operations need another permission, one of them without the blanks around it, and every
other operation needs the permission of its own name. -/
theorem built_overridden :
    someOverrides.Perm (Keyed.ofList someOverrides).entries ∧
    ∃ requirements, build (.ofList someOverrides) = .ok requirements ∧
      someOverrides.foldlM override defaults = .ok requirements.table ∧
      requirements.permission .searchV1 = "search" ∧
      requirements.permission .indexDelete = "purge" ∧
      requirements.permission .documentBulk = "document.Bulk" := by
  have hentries : (Keyed.ofList someOverrides).entries =
      [("index.Delete", "purge"), ("search.SearchV1", " search\t")] := by
    decide +kernel
  have horder : someOverrides.Perm (Keyed.ofList someOverrides).entries := by
    rw [hentries]
    exact .swap _ _ _
  have hacceptable : ∀ entry ∈ (Keyed.ofList someOverrides).entries, Acceptable entry := by
    intro entry hentry
    rw [hentries] at hentry
    rcases List.mem_pair.1 hentry with rfl | rfl
    · exact ⟨⟨.indexDelete, rfl⟩, 'p', by decide, by decide⟩
    · exact ⟨⟨.searchV1, rfl⟩, 's', by decide, by decide⟩
  obtain ⟨hbuilt, hordered, -, hpermission⟩ := built_iff (.ofList someOverrides)
  obtain ⟨requirements, h⟩ := hbuilt.2 (forall_acceptable_iff.1 hacceptable)
  refine ⟨horder, requirements, h, ((hordered _ horder).1 _).2 ⟨_, h, rfl⟩, ?_, ?_, ?_⟩
  · rw [(hpermission _ h .searchV1).2.2]
    decide +kernel
  · rw [(hpermission _ h .indexDelete).2.2]
    decide +kernel
  · rw [(hpermission _ h .documentBulk).2.2]
    decide +kernel

end Requirements

end SearchGateway.Security
