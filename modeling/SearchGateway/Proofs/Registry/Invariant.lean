import SearchGateway.Proofs.Outcome
import SearchGateway.Registry.Write
import Mathlib.Tactic.ByContra

/-!
# The invariant of the registry

No name is an index and an alias at once, every alias has members and all of them are indices, and
every name is acceptable (`Snapshot.WellFormed`). Writes keep this, so that it holds after every run
from the empty registry (`Snapshot.WellFormed.run`) and from the indices of the settings, which are
set up by writes themselves (`Snapshot.wellFormed_run`).
-/

namespace SearchGateway.Registry

namespace Snapshot

/-! ## What a write does -/

theorem createIndex_eq_ok {s t : Snapshot} {index : String} :
    s.createIndex index = .ok t ↔
      nameFlaw? index = none ∧ s.aliases.get? index = none ∧
        t = { s with indices := s.indices.insert index } := by
  unfold createIndex
  cases hflaw : nameFlaw? index with
  | some flaw => simp [checkName, hflaw]
  | none =>
      cases halias : s.aliases.get? index with
      | some members => simp [checkName, hflaw, isAlias, Keyed.contains, halias]
      | none => simp [checkName, hflaw, isAlias, Keyed.contains, halias, eq_comm]

theorem deleteIndex_eq_ok {s t : Snapshot} {index : String} :
    s.deleteIndex index = .ok t ↔
      index ∈ s.indices ∧
        t = ⟨s.indices.erase index,
          (s.aliases.map (·.erase index)).filter fun _ members => !members.isEmpty⟩ := by
  unfold deleteIndex
  by_cases hindex : index ∈ s.indices
  · simp [isIndex, hindex, eq_comm]
  · simp [isIndex, hindex]

theorem putAlias_eq_ok {s t : Snapshot} {name index : String} :
    s.putAlias name index = .ok t ↔
      nameFlaw? name = none ∧ index ∈ s.indices ∧ name ∉ s.indices ∧
        t = { s with
          aliases :=
            s.aliases.insert name (((s.aliases.get? name).getD .empty).insert index) } := by
  unfold putAlias
  cases hflaw : nameFlaw? name with
  | some flaw => simp [checkName, hflaw]
  | none =>
      by_cases hindex : index ∈ s.indices
      · by_cases hname : name ∈ s.indices
        · simp [checkName, hflaw, isIndex, hindex, hname]
        · simp only [checkName, hflaw, isIndex, hindex, hname, ok_bind, pure_eq_ok, decide_true,
            decide_false, Bool.not_true, Bool.false_eq_true, if_false, not_false_eq_true, true_and,
            Except.ok.injEq]
          exact eq_comm
      · simp [checkName, hflaw, isIndex, hindex]

theorem removeAlias_eq_ok {s t : Snapshot} {name index : String} :
    s.removeAlias name index = .ok t ↔
      ∃ members, s.aliases.get? name = some members ∧ index ∈ members ∧
        t = { s with
          aliases := if (members.erase index).isEmpty then s.aliases.erase name
            else s.aliases.insert name (members.erase index) } := by
  unfold removeAlias
  cases halias : s.aliases.get? name with
  | none => simp
  | some members =>
      by_cases hindex : index ∈ members
      · simp only [hindex, not_true_eq_false, if_false, Except.ok.injEq, Option.some.injEq,
          exists_eq_left', true_and]
        exact eq_comm
      · simp [hindex]

/-! ## Well-formed snapshots -/

/-- What every write keeps: a name is of one kind, an alias has members and all of them exist, and
every name is acceptable. -/
structure WellFormed (s : Snapshot) : Prop where
  disjoint : ∀ name ∈ s.indices, s.aliases.get? name = none
  inhabited : ∀ name members, s.aliases.get? name = some members → ∃ index, index ∈ members
  existing : ∀ name members, s.aliases.get? name = some members →
    ∀ index ∈ members, index ∈ s.indices
  indexName : ∀ name ∈ s.indices, nameFlaw? name = none
  aliasName : ∀ name members, s.aliases.get? name = some members → nameFlaw? name = none

theorem WellFormed.empty : Snapshot.empty.WellFormed where
  disjoint name h := absurd h (NameSet.not_mem_empty name)
  inhabited name members h := by cases h
  existing name members h := by cases h
  indexName name h := absurd h (NameSet.not_mem_empty name)
  aliasName name members h := by cases h

theorem WellFormed.createIndex {s t : Snapshot} {index : String} (hs : s.WellFormed)
    (h : s.createIndex index = .ok t) : t.WellFormed := by
  obtain ⟨hflaw, halias, rfl⟩ := createIndex_eq_ok.1 h
  constructor
  · intro name hname
    rcases NameSet.mem_insert.1 hname with rfl | hname
    · exact halias
    · exact hs.disjoint name hname
  · exact hs.inhabited
  · intro name members hmembers i hi
    exact NameSet.mem_insert.2 (.inr (hs.existing name members hmembers i hi))
  · intro name hname
    rcases NameSet.mem_insert.1 hname with rfl | hname
    · exact hflaw
    · exact hs.indexName name hname
  · exact hs.aliasName

/-- Taking names away keeps a snapshot well-formed if every alias that stays has a member that is
still an index. -/
theorem WellFormed.shrink {s t : Snapshot} (hs : s.WellFormed)
    (hindices : ∀ name ∈ t.indices, name ∈ s.indices)
    (haliases : ∀ name members, t.aliases.get? name = some members →
      (∃ index, index ∈ members) ∧ ∃ before, s.aliases.get? name = some before ∧
        ∀ index ∈ members, index ∈ before ∧ (index ∈ s.indices → index ∈ t.indices)) :
    t.WellFormed := by
  constructor
  · intro name hname
    by_contra hne
    obtain ⟨members, hmembers⟩ := Option.ne_none_iff_exists'.1 hne
    obtain ⟨-, before, hbefore, -⟩ := haliases name members hmembers
    rw [hs.disjoint name (hindices name hname)] at hbefore
    cases hbefore
  · intro name members hmembers
    exact (haliases name members hmembers).1
  · intro name members hmembers index hindex
    obtain ⟨-, before, hbefore, hsub⟩ := haliases name members hmembers
    obtain ⟨hmem, hstays⟩ := hsub index hindex
    exact hstays (hs.existing name before hbefore index hmem)
  · intro name hname
    exact hs.indexName name (hindices name hname)
  · intro name members hmembers
    obtain ⟨-, before, hbefore, -⟩ := haliases name members hmembers
    exact hs.aliasName name before hbefore

theorem WellFormed.deleteIndex {s t : Snapshot} {index : String} (hs : s.WellFormed)
    (h : s.deleteIndex index = .ok t) : t.WellFormed := by
  obtain ⟨-, rfl⟩ := deleteIndex_eq_ok.1 h
  apply hs.shrink
  · intro name hname
    exact (NameSet.mem_erase.1 hname).2
  · intro name members hmembers
    rw [Keyed.get?_filter, Option.filter_eq_some_iff, Keyed.get?_map,
      Option.map_eq_some_iff] at hmembers
    obtain ⟨⟨before, hbefore, rfl⟩, hempty⟩ := hmembers
    refine ⟨NameSet.isEmpty_eq_false_iff.1 (by simpa using hempty), before, hbefore, ?_⟩
    intro i hi
    obtain ⟨hne, hmem⟩ := NameSet.mem_erase.1 hi
    exact ⟨hmem, fun hindex => NameSet.mem_erase.2 ⟨hne, hindex⟩⟩

theorem WellFormed.putAlias {s t : Snapshot} {name index : String} (hs : s.WellFormed)
    (h : s.putAlias name index = .ok t) : t.WellFormed := by
  obtain ⟨hflaw, hindex, hname, rfl⟩ := putAlias_eq_ok.1 h
  have hget (x : String) : (s.aliases.insert name
      (((s.aliases.get? name).getD .empty).insert index)).get? x =
        if name = x then some (((s.aliases.get? name).getD .empty).insert index)
        else s.aliases.get? x := Keyed.get?_insert ..
  constructor
  · intro x hx
    rw [hget]
    split
    · rename_i heq
      exact absurd (heq ▸ hx) hname
    · exact hs.disjoint x hx
  · intro x members hmembers
    rw [hget] at hmembers
    split at hmembers
    · cases hmembers
      exact ⟨index, NameSet.mem_insert.2 (.inl rfl)⟩
    · exact hs.inhabited x members hmembers
  · intro x members hmembers i hi
    rw [hget] at hmembers
    split at hmembers
    · cases hmembers
      rcases NameSet.mem_insert.1 hi with rfl | hi
      · exact hindex
      · cases hold : s.aliases.get? name with
        | none => simp [hold] at hi
        | some old => exact hs.existing name old hold i (by simpa [hold] using hi)
    · exact hs.existing x members hmembers i hi
  · exact hs.indexName
  · intro x members hmembers
    rw [hget] at hmembers
    split at hmembers
    · rename_i heq
      exact heq ▸ hflaw
    · exact hs.aliasName x members hmembers

theorem WellFormed.removeAlias {s t : Snapshot} {name index : String} (hs : s.WellFormed)
    (h : s.removeAlias name index = .ok t) : t.WellFormed := by
  obtain ⟨old, hold, -, rfl⟩ := removeAlias_eq_ok.1 h
  have hstays {x members} (hx : s.aliases.get? x = some members) :
      (∃ i, i ∈ members) ∧ ∃ before, s.aliases.get? x = some before ∧
        ∀ i ∈ members, i ∈ before ∧ (i ∈ s.indices → i ∈ s.indices) :=
    ⟨hs.inhabited x members hx, members, hx, fun _ hi => ⟨hi, id⟩⟩
  apply hs.shrink
  · exact fun _ hname => hname
  · intro x members hmembers
    split at hmembers
    · rw [Keyed.get?_erase] at hmembers
      split at hmembers
      · cases hmembers
      · exact hstays hmembers
    · rename_i hempty
      rw [Keyed.get?_insert] at hmembers
      split at hmembers
      · rename_i heq
        cases hmembers
        refine ⟨NameSet.isEmpty_eq_false_iff.1 (by simpa using hempty), old, heq ▸ hold, ?_⟩
        exact fun i hi => ⟨(NameSet.mem_erase.1 hi).2, id⟩
      · exact hstays hmembers

/-! ## Runs -/

theorem after_of_apply {s t : Snapshot} {w : Write} (h : s.apply w = .ok t) : s.after w = t := by
  rw [Snapshot.after, h]

/-- A write keeps a snapshot well-formed, whether it is carried out or refused. -/
theorem WellFormed.after {s : Snapshot} (hs : s.WellFormed) (w : Write) :
    (s.after w).WellFormed := by
  unfold Snapshot.after
  split
  · rename_i t ht
    cases w with
    | createIndex index => exact hs.createIndex ht
    | deleteIndex index => exact hs.deleteIndex ht
    | putAlias name index => exact hs.putAlias ht
    | removeAlias name index => exact hs.removeAlias ht
  · exact hs

/-- The snapshot after a sequence of writes. -/
def run (s : Snapshot) (writes : List Write) : Snapshot :=
  writes.foldl Snapshot.after s

theorem WellFormed.run {s : Snapshot} (hs : s.WellFormed) (writes : List Write) :
    (s.run writes).WellFormed := by
  induction writes generalizing s with
  | nil => exact hs
  | cons w writes ih => exact ih (hs.after w)

theorem run_of_foldlM {s t : Snapshot} {writes : List Write}
    (h : writes.foldlM Snapshot.apply s = .ok t) : s.run writes = t := by
  refine (rel_of_foldlM (R := Eq) (fun hsame hnext => ?_) rfl h).symm
  exact hsame ▸ (after_of_apply hnext).symm

theorem run_seedWrites {declared : List IndexEntry} {s : Snapshot} (h : seed declared = .ok s) :
    Snapshot.empty.run (seedWrites declared) = s :=
  run_of_foldlM h

/-- Whatever indices a registry starts from and whatever is written to it, carried out or refused,
it is well-formed. -/
theorem wellFormed_run {s : Snapshot}
    (hstart : s = Snapshot.empty ∨ ∃ declared, seed declared = .ok s) (writes : List Write) :
    (s.run writes).WellFormed := by
  have hs : s.WellFormed := by
    rcases hstart with rfl | ⟨declared, hseed⟩
    · exact WellFormed.empty
    · rw [← run_seedWrites hseed]
      exact WellFormed.empty.run (seedWrites declared)
  exact hs.run writes

/-- Deleting the only member of an alias frees the alias for an index, and a refused write between
them changes nothing. -/
theorem wellFormed_freed_alias :
    ∃ s, seed [⟨"logs-1", ["logs"]⟩] = .ok s ∧
      (s.run [.createIndex "logs", .deleteIndex "logs-1", .createIndex "logs"]).isIndex "logs" ∧
      (s.run [.createIndex "logs", .deleteIndex "logs-1", .createIndex "logs"]).WellFormed := by
  have hseed : (seed [⟨"logs-1", ["logs"]⟩]).toOption.map (fun s =>
      (s.run [.createIndex "logs", .deleteIndex "logs-1", .createIndex "logs"]).isIndex "logs") =
      some true := by
    decide +kernel
  obtain ⟨s, hs, hindex⟩ := Option.map_eq_some_iff.1 hseed
  have hs := toOption_eq_some_iff.1 hs
  exact ⟨s, hs, hindex, wellFormed_run (.inr ⟨_, hs⟩) _⟩

end Snapshot

end SearchGateway.Registry
