import SearchGateway.Proofs.Registry.Frame

/-!
# Writes that take each other back

Creating an index and deleting it again leads back to the snapshot before, and so do adding a
membership and ending it, in either order. A write that adds something changes nothing when it is
repeated (`Snapshot.reversible_run`). Deleting an index is not taken back by creating it, since it
ends the memberships of the index.
-/

namespace SearchGateway.Registry

namespace Snapshot

variable {s t : Snapshot} {index name : String} {members : NameSet}

theorem insert_others? (h : index ∈ members) :
    ((others? index members).getD .empty).insert index = members := by
  have hrest : (members.erase index).insert index = members := NameSet.insert_erase h
  unfold others?
  split
  · rename_i hempty
    rw [NameSet.isEmpty_iff.1 hempty] at hrest
    exact hrest
  · exact hrest

theorem WellFormed.deleteIndex_createIndex (hs : s.WellFormed) (hnew : index ∉ s.indices)
    (h : s.createIndex index = .ok t) : t.deleteIndex index = .ok s := by
  have hcreated : index ∈ t.indices := by
    obtain ⟨-, -, rfl⟩ := createIndex_eq_ok.1 h
    exact NameSet.mem_insert.2 (.inl rfl)
  have hwithout : t.without index = s :=
    (without_apply (w := .createIndex index) h).trans (hs.without_eq_self hnew)
  exact deleteIndex_eq_without.2 ⟨hcreated, hwithout.symm⟩

theorem WellFormed.removeAlias_putAlias (hs : s.WellFormed)
    (hnew : ∀ members, s.aliases.get? name = some members → index ∉ members)
    (h : s.putAlias name index = .ok t) : t.removeAlias name index = .ok s := by
  obtain ⟨-, -, -, hindices, haliases⟩ := putAlias_eq_ok_iff.1 h
  have hname : t.aliases.get? name =
      some (((s.aliases.get? name).getD .empty).insert index) := by rw [haliases, if_pos rfl]
  refine removeAlias_eq_ok_iff.2
    ⟨_, hname, NameSet.mem_insert.2 (.inl rfl), hindices.symm, fun x => ?_⟩
  rw [haliases, others?_insert]
  split
  · rename_i hx
    subst hx
    cases halias : s.aliases.get? name with
    | none => rfl
    | some members =>
        exact (others?_of_not_mem (hnew members halias) (hs.inhabited name members halias)).symm
  · rfl

/-- A membership that has ended can begin again; its alias is not taken as a name of an index. -/
theorem WellFormed.putAlias_removeAlias (hs : s.WellFormed)
    (h : s.removeAlias name index = .ok t) : t.putAlias name index = .ok s := by
  obtain ⟨members, halias, hmember, hindices, haliases⟩ := removeAlias_eq_ok_iff.1 h
  have hname : name ∉ s.indices := fun hmem => by
    rw [hs.disjoint name hmem] at halias
    cases halias
  refine putAlias_eq_ok_iff.2 ⟨hs.aliasName name members halias,
    hindices ▸ hs.existing name members halias index hmember, hindices ▸ hname, hindices.symm,
    fun x => ?_⟩
  rw [haliases, haliases, if_pos rfl, insert_others? hmember]
  split
  · rename_i hx
    rw [← hx, halias]
  · rfl

theorem createIndex_createIndex (h : s.createIndex index = .ok t) :
    t.createIndex index = .ok t := by
  obtain ⟨hflaw, halias, rfl⟩ := createIndex_eq_ok.1 h
  have hagain : (s.indices.insert index).insert index = s.indices.insert index :=
    NameSet.insert_eq_self (NameSet.mem_insert.2 (.inl rfl))
  exact createIndex_eq_ok.2 ⟨hflaw, halias, by rw [hagain]⟩

theorem putAlias_putAlias (h : s.putAlias name index = .ok t) : t.putAlias name index = .ok t := by
  obtain ⟨hflaw, hindex, hname, hindices, haliases⟩ := putAlias_eq_ok_iff.1 h
  refine putAlias_eq_ok_iff.2 ⟨hflaw, hindices ▸ hindex, hindices ▸ hname, rfl, fun x => ?_⟩
  rw [haliases, haliases, if_pos rfl]
  split
  · rw [Option.getD_some, NameSet.insert_eq_self (NameSet.mem_insert.2 (.inl rfl))]
  · rfl

/-- What takes the writes to a snapshot back, and what repeating them does. -/
structure Reversible (s : Snapshot) : Prop where
  deleteIndex_createIndex : ∀ index t, ¬ s.isIndex index → ¬ s.isAlias index →
    s.createIndex index = .ok t → t.deleteIndex index = .ok s
  removeAlias_putAlias : ∀ name index t,
    (∀ members, s.aliases.get? name = some members → index ∉ members) →
    s.putAlias name index = .ok t → t.removeAlias name index = .ok s
  putAlias_removeAlias : ∀ name index t,
    s.removeAlias name index = .ok t → t.putAlias name index = .ok s
  createIndex_createIndex : ∀ index t,
    s.createIndex index = .ok t → t.createIndex index = .ok t
  putAlias_putAlias : ∀ name index t,
    s.putAlias name index = .ok t → t.putAlias name index = .ok t

/-- After every run, writes can be taken back and repeated. -/
theorem reversible_run (writes : List Write) : (Snapshot.empty.run writes).Reversible := by
  have hs : (Snapshot.empty.run writes).WellFormed := WellFormed.empty.run writes
  exact {
    deleteIndex_createIndex := fun index t hnew _ h =>
      hs.deleteIndex_createIndex (by simpa [isIndex] using hnew) h
    removeAlias_putAlias := fun name index t hnew h => hs.removeAlias_putAlias hnew h
    putAlias_removeAlias := fun name index t h => hs.putAlias_removeAlias h
    createIndex_createIndex := fun index t h => Snapshot.createIndex_createIndex h
    putAlias_putAlias := fun name index t h => Snapshot.putAlias_putAlias h }

/-- A new alias is gone again when its only membership ends. -/
theorem reversible_run_logs :
    ∃ s t, s = Snapshot.empty.run [.createIndex "logs-1"] ∧ ¬ s.isAlias "logs" ∧
      s.putAlias "logs" "logs-1" = .ok t ∧ t.isAlias "logs" ∧
      t.removeAlias "logs" "logs-1" = .ok s := by
  have hnew : ∀ members, (Snapshot.empty.run [.createIndex "logs-1"]).aliases.get? "logs" =
      some members → "logs-1" ∉ members := by
    intro members hmembers
    cases hmembers
  have hput : ((Snapshot.empty.run [.createIndex "logs-1"]).putAlias "logs" "logs-1").toOption.map
      (·.isAlias "logs") = some true := by
    decide +kernel
  obtain ⟨t, ht, halias⟩ := Option.map_eq_some_iff.1 hput
  have ht := toOption_eq_some_iff.1 ht
  exact ⟨_, t, rfl, by decide +kernel, ht, halias,
    (reversible_run _).removeAlias_putAlias _ _ _ hnew ht⟩

end Snapshot

end SearchGateway.Registry
