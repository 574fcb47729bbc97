import SearchGateway.Gateway.Failure
import SearchGateway.Proofs.Registry.WriteTargets

/-!
# What a write may name

Under the policy for writes an expression either selects one index for each of its tokens or is
answered with the failure of its first token that does not name one index. Where it selects indices,
those of them that exist are the ones that the expression selects for a read
(`Snapshot.decidesWrites_run`).
-/

namespace SearchGateway.Registry.Snapshot

open Gateway (Failure)

variable {s : Snapshot} {expression token index : String} {targets : List String}

/-! ## Refused expressions -/

/-- The message for an alias of several indices. -/
def severalMembersText (name : String) : String :=
  s!"no write index is defined for alias [{name}]. " ++
    "The write index may be explicitly disabled using is_write_index=false or the alias " ++
    "points to multiple indices without one being designated as a write index"

/-- The failure that a write to an expression is answered with: that of the first token that a write
cannot take, or that of the whole expression if it has no token. -/
inductive Refuses (s : Snapshot) (expression : String) : Elastic.Failure → Prop where
  | wildcard {front token rest} : tokens expression = front ++ token :: rest →
      (∀ other ∈ front, s.Writable other) → token = "_all" ∨ '*' ∈ token.toList →
      s.Refuses expression
        (.invalidIndexName token "must not contain the following characters [*]")
  | severalMembers {front token rest members} : tokens expression = front ++ token :: rest →
      (∀ other ∈ front, s.Writable other) → token ≠ "_all" → '*' ∉ token.toList →
      s.aliases.get? token = some members → 2 ≤ members.toList.length →
      s.Refuses expression (.illegalArgument (severalMembersText token))
  | noToken : tokens expression = [] →
      s.Refuses expression (.invalidIndexName expression "must not be empty")

theorem WellFormed.select_create_eq_error (hs : s.WellFormed) {failure : Failure} :
    (s.select .create expression).mapError Failure.ofTargetError = .error failure ↔
      ∃ reported, failure = .badRequest reported ∧ s.Refuses expression reported := by
  rw [mapError_eq_error_iff, select]
  constructor
  · rintro ⟨e, he, rfl⟩
    rcases hs.writeTargets_eq_error.1 he with
      ⟨hnone, rfl⟩ | ⟨front, token, rest, htokens, hfront, h⟩
    · exact ⟨_, rfl, .noToken hnone⟩
    · cases h with
      | wildcard hwild => exact ⟨_, rfl, .wildcard htokens hfront hwild⟩
      | severalMembers hall hstar hmembers hlength =>
          exact ⟨_, rfl, .severalMembers htokens hfront hall hstar hmembers hlength⟩
  · rintro ⟨reported, rfl, h⟩
    cases h with
    | wildcard htokens hfront hwild =>
        exact ⟨_, hs.writeTargets_eq_error.2
          (.inr ⟨_, _, _, htokens, hfront, .wildcard hwild⟩), rfl⟩
    | severalMembers htokens hfront hall hstar hmembers hlength =>
        exact ⟨_, hs.writeTargets_eq_error.2
          (.inr ⟨_, _, _, htokens, hfront, .severalMembers hall hstar hmembers hlength⟩), rfl⟩
    | noToken hnone => exact ⟨_, hs.writeTargets_eq_error.2 (.inl ⟨hnone, rfl⟩), rfl⟩

/-! ## Selected indices -/

theorem WellFormed.mem_indices_of_alias (hs : s.WellFormed) {members : NameSet}
    (halias : s.aliases.get? token = some members) (hmembers : members.toList = [index]) :
    index ∈ s.indices :=
  hs.existing token members halias index (by simp [NameSet.mem_def, hmembers])

theorem WellFormed.resolveToken_of_target (hs : s.WellFormed)
    (h : s.writeTarget token = .ok index) :
    s.resolveToken token = [index].filter s.isIndex := by
  obtain ⟨hall, hstar, hdenotes⟩ := hs.writeTarget_eq_ok.1 h
  rcases denotes_iff.1 hdenotes with ⟨members, halias, hmembers⟩ | ⟨halias, rfl⟩
  · have hindex : index ∈ s.indices := hs.mem_indices_of_alias halias hmembers
    rw [hs.resolveToken_alias halias hall hstar, hmembers]
    simp [isIndex, hindex]
  · rw [resolveToken_plain (selectsAll_eq_false hall hstar) (Text.stem?_eq_none hstar), halias]
    by_cases hindex : index ∈ s.indices <;> simp [isIndex, hindex]

/-- What the indices that a write selects have to do with the expression. -/
structure Selects (s : Snapshot) (expression : String) (targets : List String) : Prop where
  nodup : targets.Nodup
  not_alias : ∀ target ∈ targets, ¬ s.isAlias target
  existing : s.resolve expression = targets.filter s.isIndex
  new : ∀ target ∈ targets, ¬ s.isIndex target →
    target ∈ tokens expression ∧ ¬ s.isAlias target

theorem WellFormed.selects_of_select (hs : s.WellFormed)
    (h : s.select .create expression = .ok targets) : s.Selects expression targets := by
  have hnew : ∀ target ∈ targets, target ∈ s.indices ∨
      (target ∈ tokens expression ∧ s.aliases.get? target = none) := by
    intro target htarget
    obtain ⟨token, htoken, hdenotes⟩ := (hs.denotes_writeTargets h).2 target htarget
    rcases denotes_iff.1 hdenotes with ⟨members, halias, hmembers⟩ | ⟨halias, rfl⟩
    · exact .inl (hs.mem_indices_of_alias halias hmembers)
    · exact .inr ⟨htoken, halias⟩
  have hnotAlias : ∀ target ∈ targets, ¬ s.isAlias target := by
    intro target htarget
    have halias : s.aliases.get? target = none :=
      (hnew target htarget).elim (hs.disjoint target) (·.2)
    simp [isAlias, Keyed.contains, halias]
  obtain ⟨-, named, hnamed, rfl⟩ := writeTargets_eq_ok.1 h
  refine ⟨nodup_eraseDups named, hnotAlias, ?_, fun target htarget hindex => ?_⟩
  -- token by token, a read selects what a write does as far as it exists
  · have hselected : (tokens expression).flatMap s.resolveToken = named.filter s.isIndex :=
      calc (tokens expression).flatMap s.resolveToken
          = named.flatMap fun index => [index].filter s.isIndex :=
            flatMap_of_forall₂ hnamed fun token index => hs.resolveToken_of_target
        _ = (named.flatMap fun index => [index]).filter s.isIndex := List.filter_flatMap.symm
        _ = named.filter s.isIndex := by rw [List.flatMap_singleton']
    rw [resolve, hselected, eraseDups_filter]
  · have hmissing : target ∉ s.indices := by simpa [isIndex] using hindex
    exact ⟨((hnew target htarget).resolve_left hmissing).1, hnotAlias target htarget⟩

/-! ## The decision -/

theorem WellFormed.exists_select_create_iff (hs : s.WellFormed) :
    (∃ targets, s.select .create expression = .ok targets) ↔
      tokens expression ≠ [] ∧ ∀ token ∈ tokens expression, s.Writable token := by
  constructor
  · rintro ⟨targets, h⟩
    obtain ⟨hne, named, hnamed, rfl⟩ := writeTargets_eq_ok.1 h
    refine ⟨fun hnone => ?_, fun token htoken => ?_⟩
    · rw [hnone, List.forall₂_nil_left_iff] at hnamed
      exact hne (by rw [hnamed]; rfl)
    · obtain ⟨index, -, htarget⟩ := exists_right_of_forall₂ hnamed token htoken
      exact hs.writable_iff.1 ⟨index, htarget⟩
  · rintro ⟨hne, hwritable⟩
    cases hselect : s.select .create expression with
    | ok targets => exact ⟨targets, rfl⟩
    | error e =>
        rcases hs.writeTargets_eq_error.1 hselect with ⟨hnone, -⟩ | ⟨_, token, _, htokens, -, h⟩
        · exact absurd hnone hne
        · exact absurd (hwritable token (by simp [htokens])) h.not_writable

/-- Which expressions a write may have, what it is answered with otherwise, and what it selects. -/
structure DecidesWrites (s : Snapshot) (expression : String) : Prop where
  accepts_iff : (∃ targets, s.select .create expression = .ok targets) ↔
    tokens expression ≠ [] ∧ ∀ token ∈ tokens expression, s.Writable token
  refuses_iff : ∀ failure,
    (s.select .create expression).mapError Failure.ofTargetError = .error failure ↔
      ∃ reported, failure = .badRequest reported ∧ s.Refuses expression reported
  selects : ∀ targets, s.select .create expression = .ok targets → s.Selects expression targets

/-- After every run the policy for writes is decided by the tokens of the expression, and where it
accepts them it agrees with what the expression selects for a read. -/
theorem decidesWrites_run (writes : List Write) (expression : String) :
    (Snapshot.empty.run writes).DecidesWrites expression where
  accepts_iff := (WellFormed.empty.run writes).exists_select_create_iff
  refuses_iff _ := (WellFormed.empty.run writes).select_create_eq_error
  selects _ h := (WellFormed.empty.run writes).selects_of_select h

/-- A write to an alias of one index and to a new index selects both, and a read the first. -/
theorem decidesWrites_logs :
    (Snapshot.empty.run [.createIndex "logs-1", .putAlias "logs" "logs-1"]).select .create
        "logs, new, logs-1" = .ok ["logs-1", "new"] ∧
      (Snapshot.empty.run [.createIndex "logs-1", .putAlias "logs" "logs-1"]).resolve
        "logs, new, logs-1" = ["logs-1"] := by
  have hselect : (Snapshot.empty.run [.createIndex "logs-1", .putAlias "logs" "logs-1"]).select
      .create "logs, new, logs-1" = .ok ["logs-1", "new"] := rfl
  exact ⟨hselect, ((decidesWrites_run _ _).selects _ hselect).existing.trans (by decide +kernel)⟩

/-- The first token at fault is reported, not the worst one. -/
example :
    (Snapshot.empty.run [.createIndex "logs-1", .createIndex "logs-2", .putAlias "logs" "logs-1",
      .putAlias "logs" "logs-2"]).select .create "new,logs,*" = .error (.severalMembers "logs") :=
  rfl

end SearchGateway.Registry.Snapshot
