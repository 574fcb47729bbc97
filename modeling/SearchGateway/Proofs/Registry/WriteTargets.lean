import SearchGateway.Proofs.Registry.Resolution
import SearchGateway.Registry.Policy

/-!
# What a write selects

Each name of a target expression stands for one index in a write (`Snapshot.Denotes`). A list of
names therefore selects one index exactly if all of them stand for it.
-/

namespace SearchGateway.Registry

namespace Snapshot

variable {s : Snapshot}

theorem WellFormed.existing_eq (hs : s.WellFormed) {name : String} {members : NameSet}
    (h : s.aliases.get? name = some members) : s.existing members = members.toList := by
  unfold Snapshot.existing
  rw [List.filter_eq_self]
  intro index hindex
  simpa using hs.existing name members h index hindex

theorem WellFormed.resolveToken_alias (hs : s.WellFormed) {name : String} {members : NameSet}
    (h : s.aliases.get? name = some members) (hall : name ≠ "_all") (hstar : '*' ∉ name.toList) :
    s.resolveToken name = members.toList := by
  have hindex : name ∉ s.indices := fun hmem => by
    rw [hs.disjoint name hmem] at h
    cases h
  rw [resolveToken_plain (selectsAll_eq_false hall hstar) (Text.stem?_eq_none hstar),
    if_neg hindex, h]
  exact hs.existing_eq h

/-! ## One name -/

/-- The index that a name stands for in a write: an alias stands for its only member, any other
name for itself. -/
def Denotes (s : Snapshot) (name index : String) : Prop :=
  match s.aliases.get? name with
  | some members => members.toList = [index]
  | none => index = name

instance (s : Snapshot) (name index : String) : Decidable (s.Denotes name index) :=
  match h : s.aliases.get? name with
  | some members => decidable_of_iff (members.toList = [index]) (by simp [Denotes, h])
  | none => decidable_of_iff (index = name) (by simp [Denotes, h])

theorem denotes_iff {name index : String} :
    s.Denotes name index ↔
      (∃ members, s.aliases.get? name = some members ∧ members.toList = [index]) ∨
        (s.aliases.get? name = none ∧ index = name) := by
  unfold Denotes
  cases s.aliases.get? name <;> simp

theorem Denotes.unique {name i j : String} (hi : s.Denotes name i) (hj : s.Denotes name j) :
    i = j := by
  unfold Denotes at hi hj
  cases halias : s.aliases.get? name with
  | none =>
      simp only [halias] at hi hj
      exact hi.trans hj.symm
  | some members =>
      simp only [halias] at hi hj
      simpa [hi] using hj

theorem WellFormed.writeTarget_eq_ok (hs : s.WellFormed) {token index : String} :
    s.writeTarget token = .ok index ↔
      token ≠ "_all" ∧ '*' ∉ token.toList ∧ s.Denotes token index := by
  unfold Snapshot.writeTarget Denotes
  by_cases hwild : token = "_all" ∨ '*' ∈ token.toList
  · rw [if_pos hwild]
    simp only [reduceCtorEq, false_iff]
    rintro ⟨hall, hstar, -⟩
    exact hwild.elim hall hstar
  · obtain ⟨hall, hstar⟩ := not_or.1 hwild
    rw [if_neg hwild]
    by_cases hindex : token ∈ s.indices
    · simp [isIndex, hindex, hall, hstar, hs.disjoint token hindex, eq_comm]
    · cases halias : s.aliases.get? token with
      | none => simp [isIndex, hindex, isAlias, Keyed.contains, halias, hall, hstar, eq_comm]
      | some members =>
          simp only [isIndex, hindex, decide_false, Bool.false_eq_true, if_false, isAlias,
            Keyed.contains, halias, Option.isSome_some, if_true,
            hs.resolveToken_alias halias hall hstar, ne_eq, hall, not_false_eq_true, hstar,
            true_and]
          split <;> simp_all

/-- Whether a write can take a token as the name of one index. -/
def Writable (s : Snapshot) (token : String) : Prop :=
  token ≠ "_all" ∧ '*' ∉ token.toList ∧
    ∀ members, s.aliases.get? token = some members → members.toList.length = 1

theorem exists_denotes_iff {token : String} :
    (∃ index, s.Denotes token index) ↔
      ∀ members, s.aliases.get? token = some members → members.toList.length = 1 := by
  simp only [denotes_iff, List.length_eq_one_iff]
  cases s.aliases.get? token <;> simp

theorem WellFormed.writable_iff (hs : s.WellFormed) {token : String} :
    (∃ index, s.writeTarget token = .ok index) ↔ s.Writable token := by
  simp only [hs.writeTarget_eq_ok, exists_and_left, exists_denotes_iff, Writable]

/-- Why a write cannot take a token as the name of one index. -/
inductive Offends (s : Snapshot) (token : String) : TargetError → Prop where
  | wildcard : token = "_all" ∨ '*' ∈ token.toList → s.Offends token (.wildcard token)
  | severalMembers {members} : token ≠ "_all" → '*' ∉ token.toList →
      s.aliases.get? token = some members → 2 ≤ members.toList.length →
      s.Offends token (.severalMembers token)

theorem Offends.not_writable {token : String} {e : TargetError} (h : s.Offends token e) :
    ¬ s.Writable token := by
  rintro ⟨hall, hstar, hone⟩
  cases h with
  | wildcard hwild => exact hwild.elim hall hstar
  | severalMembers _ _ hmembers hlength =>
      have := hone _ hmembers
      omega

/-- An alias is never without members, so a write finds one index for it or several. -/
theorem WellFormed.writeTarget_eq_error (hs : s.WellFormed) {token : String} {e : TargetError} :
    s.writeTarget token = .error e ↔ s.Offends token e := by
  by_cases hwild : token = "_all" ∨ '*' ∈ token.toList
  · rw [Snapshot.writeTarget, if_pos hwild]
    constructor
    · rintro ⟨⟩
      exact .wildcard hwild
    · intro h
      cases h with
      | wildcard => rfl
      | severalMembers hall hstar => exact absurd hwild (not_or.2 ⟨hall, hstar⟩)
  obtain ⟨hall, hstar⟩ := not_or.1 hwild
  by_cases hone : ∀ members, s.aliases.get? token = some members → members.toList.length = 1
  · have hwritable : s.Writable token := ⟨hall, hstar, hone⟩
    obtain ⟨index, hindex⟩ := hs.writable_iff.2 hwritable
    rw [hindex]
    exact ⟨nofun, fun h => absurd hwritable h.not_writable⟩
  · obtain ⟨members, hone⟩ := not_forall.1 hone
    obtain ⟨hmembers, hlength⟩ := Classical.not_imp.1 hone
    have hindex : token ∉ s.indices := fun hmem => by
      rw [hs.disjoint token hmem] at hmembers
      cases hmembers
    obtain ⟨first, second, rest, hlist⟩ : ∃ first second rest,
        members.toList = first :: second :: rest := by
      obtain ⟨member, hmember⟩ := hs.inhabited token members hmembers
      rw [NameSet.mem_def] at hmember
      match hm : members.toList with
      | [] => simp [hm] at hmember
      | [_] => simp [hm] at hlength
      | first :: second :: rest => exact ⟨first, second, rest, rfl⟩
    have htarget : s.writeTarget token = .error (.severalMembers token) := by
      simp [Snapshot.writeTarget, hall, hstar, isIndex, hindex, isAlias, Keyed.contains, hmembers,
        hs.resolveToken_alias hmembers hall hstar, hlist]
    rw [htarget]
    constructor
    · rintro ⟨⟩
      exact .severalMembers hall hstar hmembers (by simp [hlist])
    · intro h
      cases h with
      | wildcard => contradiction
      | severalMembers => rfl

/-! ## Expressions -/

theorem writeTargets_eq_ok {expression : String} {targets : List String} :
    s.writeTargets expression = .ok targets ↔
      targets ≠ [] ∧ ∃ named,
        List.Forall₂ (fun token index => s.writeTarget token = .ok index)
          (tokens expression) named ∧ targets = named.eraseDups := by
  unfold Snapshot.writeTargets
  simp only [bind_eq_ok_iff, mapM_eq_ok_iff]
  constructor
  · rintro ⟨named, hnamed, h⟩
    cases hempty : named.eraseDups.isEmpty with
    | true => simp [hempty] at h
    | false =>
        simp only [hempty, Bool.false_eq_true, if_false, pure_eq_ok, Except.ok.injEq] at h
        subst h
        exact ⟨List.isEmpty_eq_false_iff.1 hempty, named, hnamed, rfl⟩
  · rintro ⟨hne, named, hnamed, rfl⟩
    exact ⟨named, hnamed, by simp [List.isEmpty_eq_false_iff.2 hne]⟩

theorem WellFormed.denotes_writeTargets (hs : s.WellFormed) {expression : String}
    {targets : List String} (h : s.writeTargets expression = .ok targets) :
    (∀ token ∈ tokens expression, ∃ index ∈ targets, s.Denotes token index) ∧
      ∀ index ∈ targets, ∃ token ∈ tokens expression, s.Denotes token index := by
  obtain ⟨-, named, hnamed, rfl⟩ := writeTargets_eq_ok.1 h
  constructor
  · intro token htoken
    obtain ⟨index, hindex, htarget⟩ := exists_right_of_forall₂ hnamed token htoken
    exact ⟨index, List.mem_eraseDups.2 hindex, (hs.writeTarget_eq_ok.1 htarget).2.2⟩
  · intro index hindex
    obtain ⟨token, htoken, htarget⟩ :=
      exists_left_of_forall₂ hnamed index (List.mem_eraseDups.1 hindex)
    exact ⟨token, htoken, (hs.writeTarget_eq_ok.1 htarget).2.2⟩

/-- A write is refused for the first token that it cannot take, or for having none. -/
theorem WellFormed.writeTargets_eq_error (hs : s.WellFormed) {expression : String}
    {e : TargetError} :
    s.writeTargets expression = .error e ↔
      (tokens expression = [] ∧ e = .noTarget expression) ∨
        ∃ front token rest, tokens expression = front ++ token :: rest ∧
          (∀ other ∈ front, s.Writable other) ∧ s.Offends token e := by
  have hmapM : (tokens expression).mapM s.writeTarget = .error e ↔
      ∃ front token rest, tokens expression = front ++ token :: rest ∧
        (∀ other ∈ front, s.Writable other) ∧ s.Offends token e := by
    simp only [mapM_eq_error_iff, hs.writable_iff, hs.writeTarget_eq_error]
  rw [← hmapM, Snapshot.writeTargets, bind_eq_error_iff, or_comm]
  refine or_congr_left ⟨?_, ?_⟩
  · rintro ⟨named, hnamed, h⟩
    cases named with
    | nil =>
        cases h
        exact ⟨List.forall₂_nil_right_iff.1 (mapM_eq_ok_iff.1 hnamed), rfl⟩
    | cons index named => simp [List.eraseDups_cons] at h
  · rintro ⟨hnone, rfl⟩
    exact ⟨[], by rw [hnone]; rfl, rfl⟩

/-- After every run, a write selects the indices that its names stand for, each once. It selects a
single index exactly if all of its names stand for it. -/
theorem length_select_create_eq_one_iff (writes : List Write) {expression : String}
    {targets : List String}
    (h : (Snapshot.empty.run writes).select .create expression = .ok targets) :
    targets.Nodup ∧
      (∀ index, index ∈ targets ↔
        ∃ token ∈ tokens expression, (Snapshot.empty.run writes).Denotes token index) ∧
      (targets.length = 1 ↔
        ∃ index, ∀ token ∈ tokens expression, (Snapshot.empty.run writes).Denotes token index) := by
  have hs : (Snapshot.empty.run writes).WellFormed := WellFormed.empty.run writes
  have hne : targets ≠ [] := (writeTargets_eq_ok.1 h).1
  have hnodup : targets.Nodup := by
    obtain ⟨-, named, -, rfl⟩ := writeTargets_eq_ok.1 h
    exact nodup_eraseDups named
  obtain ⟨hselected, hnamed⟩ := hs.denotes_writeTargets h
  refine ⟨hnodup, fun index => ⟨hnamed index, ?_⟩, ?_, ?_⟩
  · rintro ⟨token, htoken, hdenotes⟩
    obtain ⟨other, hother, hdenotes'⟩ := hselected token htoken
    exact hdenotes.unique hdenotes' ▸ hother
  · intro hlength
    obtain ⟨index, rfl⟩ := List.length_eq_one_iff.1 hlength
    refine ⟨index, fun token htoken => ?_⟩
    obtain ⟨other, hother, hdenotes⟩ := hselected token htoken
    exact List.mem_singleton.1 hother ▸ hdenotes
  · rintro ⟨index, hall⟩
    refine length_eq_one_of_nodup (a := index) hnodup hne fun other hother => ?_
    obtain ⟨token, htoken, hdenotes⟩ := hnamed other hother
    exact hdenotes.unique (hall token htoken)

/-- An alias and its only member are one index. -/
theorem length_select_create_logs :
    (Snapshot.empty.run [.createIndex "logs-1", .putAlias "logs" "logs-1"]).select .create
        "logs, logs-1" = .ok ["logs-1"] ∧ ["logs-1"].length = 1 := by
  have hselect : (Snapshot.empty.run [.createIndex "logs-1", .putAlias "logs" "logs-1"]).select
      .create "logs, logs-1" = .ok ["logs-1"] := rfl
  exact ⟨hselect, (length_select_create_eq_one_iff _ hselect).2.2.2 ⟨"logs-1", by decide⟩⟩

/-- A list of two indices is a write to both. -/
theorem select_create_fans_out :
    ¬ ∀ (writes : List Write) (expression : String) (targets : List String),
      (Snapshot.empty.run writes).select .create expression = .ok targets →
        targets.length = 1 := by
  intro hone
  have hselect : (Snapshot.empty.run [.createIndex "a", .createIndex "b"]).select .create "a,b" =
      .ok ["a", "b"] := rfl
  exact absurd (hone _ _ _ hselect) (by decide)

end Snapshot

end SearchGateway.Registry
