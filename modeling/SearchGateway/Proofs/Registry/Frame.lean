import SearchGateway.Proofs.Registry.Resolution

/-!
# What a write leaves alone

A write about one index changes what expressions select by this index at most. To see this the index
is taken out of the snapshots before and after the write (`Snapshot.without`): then they are the
same (`Snapshot.without_apply`), and taking an index out of a snapshot takes it out of what
expressions select (`Snapshot.WellFormed.resolve_without`).
-/

namespace SearchGateway.Registry

/-- The index that a write is about. -/
def Write.index : Write → String
  | .createIndex index => index
  | .deleteIndex index => index
  | .putAlias _ index => index
  | .removeAlias _ index => index

namespace Snapshot

variable {s t : Snapshot} {index name token : String} {members : NameSet}

/-! ## The other members of an alias -/

/-- The members of an alias without an index, unless nothing is left. -/
def others? (index : String) (members : NameSet) : Option NameSet :=
  if (members.erase index).isEmpty then none else some (members.erase index)

theorem others?_insert (index : String) (members : NameSet) :
    others? index (members.insert index) = others? index members := by
  rw [others?, NameSet.erase_insert, others?]

theorem others?_bind (index : String) (members : NameSet) :
    (others? index members).bind (others? index) = others? index members := by
  cases hempty : (members.erase index).isEmpty <;> simp [others?, hempty]

theorem others?_of_not_mem (h : index ∉ members) (hother : ∃ other, other ∈ members) :
    others? index members = some members := by
  rw [others?, NameSet.erase_eq_self h, NameSet.isEmpty_eq_false_iff.2 hother]
  rfl

/-! ## Taking an index out -/

/-- The snapshot without an index, its memberships and the aliases that have no other member. -/
def without (s : Snapshot) (index : String) : Snapshot where
  indices := s.indices.erase index
  aliases := (s.aliases.map (·.erase index)).filter fun _ members => !members.isEmpty

theorem ext_members (hindices : ∀ name, name ∈ s.indices ↔ name ∈ t.indices)
    (haliases : ∀ name, s.aliases.get? name = t.aliases.get? name) : s = t := by
  obtain ⟨indices, aliases⟩ := s
  obtain ⟨indices', aliases'⟩ := t
  obtain rfl : indices = indices' := NameSet.ext_mem hindices
  obtain rfl : aliases = aliases' := Keyed.ext_get? haliases
  rfl

theorem get?_without (s : Snapshot) (index name : String) :
    (s.without index).aliases.get? name = (s.aliases.get? name).bind (others? index) := by
  rw [without, Keyed.get?_filter, Keyed.get?_map]
  cases s.aliases.get? name with
  | none => rfl
  | some members => cases hempty : (members.erase index).isEmpty <;> simp [others?, hempty]

theorem without_congr (hindices : ∀ name ≠ index, name ∈ t.indices ↔ name ∈ s.indices)
    (haliases : ∀ name, (t.aliases.get? name).bind (others? index) =
      (s.aliases.get? name).bind (others? index)) :
    t.without index = s.without index := by
  refine ext_members (fun name => ?_) fun name => ?_
  · simp only [without, NameSet.mem_erase]
    exact and_congr_right (hindices name)
  · rw [get?_without, get?_without, haliases]

theorem WellFormed.without_eq_self (hs : s.WellFormed) (h : index ∉ s.indices) :
    s.without index = s := by
  refine ext_members (fun name => ?_) fun name => ?_
  · rw [without, NameSet.erase_eq_self h]
  · rw [get?_without]
    cases halias : s.aliases.get? name with
    | none => rfl
    | some members =>
        have hmember : index ∉ members := fun hmem => h (hs.existing name members halias index hmem)
        exact others?_of_not_mem hmember (hs.inhabited name members halias)

/-! ## One write -/

theorem deleteIndex_eq_without :
    s.deleteIndex index = .ok t ↔ index ∈ s.indices ∧ t = s.without index :=
  deleteIndex_eq_ok

theorem apply_deleteIndex (h : index ∈ s.indices) :
    s.apply (.deleteIndex index) = .ok (s.without index) :=
  deleteIndex_eq_without.2 ⟨h, rfl⟩

theorem putAlias_eq_ok_iff :
    s.putAlias name index = .ok t ↔
      nameFlaw? name = none ∧ index ∈ s.indices ∧ name ∉ s.indices ∧ t.indices = s.indices ∧
        ∀ x, t.aliases.get? x =
          if name = x then some (((s.aliases.get? name).getD .empty).insert index)
          else s.aliases.get? x := by
  rw [putAlias_eq_ok]
  refine and_congr_right fun _ => and_congr_right fun _ => and_congr_right fun _ => ⟨?_, ?_⟩
  · rintro rfl
    exact ⟨rfl, fun x => Keyed.get?_insert ..⟩
  · rintro ⟨hindices, haliases⟩
    refine ext_members (fun x => by rw [hindices]) fun x => ?_
    rw [haliases, Keyed.get?_insert]

theorem removeAlias_eq_ok_iff :
    s.removeAlias name index = .ok t ↔
      ∃ members, s.aliases.get? name = some members ∧ index ∈ members ∧ t.indices = s.indices ∧
        ∀ x, t.aliases.get? x = if name = x then others? index members else s.aliases.get? x := by
  rw [removeAlias_eq_ok]
  have hget (members : NameSet) (x : String) :
      (if (members.erase index).isEmpty then s.aliases.erase name
        else s.aliases.insert name (members.erase index)).get? x =
          if name = x then others? index members else s.aliases.get? x := by
    rw [others?]
    split
    · exact Keyed.get?_erase ..
    · exact Keyed.get?_insert ..
  refine exists_congr fun members => and_congr_right fun _ => and_congr_right fun _ => ⟨?_, ?_⟩
  · rintro rfl
    exact ⟨rfl, hget members⟩
  · rintro ⟨hindices, haliases⟩
    exact ext_members (fun x => by rw [hindices]) fun x => (haliases x).trans (hget members x).symm

/-- Up to the index that it is about, a write changes nothing. -/
theorem without_apply {w : Write} (h : s.apply w = .ok t) :
    t.without w.index = s.without w.index := by
  cases w with
  | createIndex index =>
      obtain ⟨-, -, rfl⟩ := createIndex_eq_ok.1 h
      refine without_congr (fun name hname => ?_) fun name => rfl
      exact NameSet.mem_insert.trans (or_iff_right hname)
  | deleteIndex index =>
      obtain ⟨-, rfl⟩ := deleteIndex_eq_without.1 h
      refine without_congr (fun name hname => ?_) fun name => ?_
      · exact NameSet.mem_erase.trans (and_iff_right hname)
      · rw [get?_without, Option.bind_assoc]
        simp only [others?_bind, Write.index]
  | putAlias name index =>
      obtain ⟨-, -, -, hindices, haliases⟩ := putAlias_eq_ok_iff.1 h
      refine without_congr (fun _ _ => by rw [hindices]) fun x => ?_
      rw [haliases]
      split
      · rename_i hx
        subst hx
        rw [Option.bind_some, Write.index, others?_insert]
        cases s.aliases.get? name <;> rfl
      · rfl
  | removeAlias name index =>
      obtain ⟨members, hmembers, -, hindices, haliases⟩ := removeAlias_eq_ok_iff.1 h
      refine without_congr (fun _ _ => by rw [hindices]) fun x => ?_
      rw [haliases]
      split
      · rename_i hx
        subst hx
        rw [hmembers, Option.bind_some]
        exact others?_bind index members
      · rfl

/-! ## What expressions select -/

theorem existing_without (s : Snapshot) (index : String) (members : NameSet) :
    (s.without index).existing (members.erase index) =
      (s.existing members).filter (· ≠ index) := by
  simp only [existing, without, NameSet.erase, List.filter_filter]
  refine List.filter_congr fun name _ => ?_
  by_cases hname : name = index <;> simp [hname, NameSet.mem_def]

theorem existing_of_isEmpty (s : Snapshot) (h : members.isEmpty = true) :
    s.existing members = [] := by
  rw [NameSet.isEmpty_iff.1 h]
  rfl

theorem existing_others? (s : Snapshot) (index : String) (members : NameSet) :
    ((others? index members).map (s.without index).existing).getD [] =
      (s.existing members).filter (· ≠ index) := by
  rw [← existing_without, others?]
  split
  -- an alias that goes with its only member has selected no other index
  · rename_i hempty
    rw [existing_of_isEmpty _ hempty]
    rfl
  · rfl

theorem coveredBy_without (s : Snapshot) (index token : String) :
    (s.without index).coveredBy token = (s.coveredBy token).filter (· ≠ index) := by
  have hindices : (s.without index).indices.toList.filter (Text.covers token) =
      (s.indices.toList.filter (Text.covers token)).filter (· ≠ index) := by
    simp only [without, NameSet.erase, List.filter_filter, Bool.and_comm]
  -- an alias adds the members that it has left, whether it stays or goes
  have haliases (t : Snapshot) : ((s.without index).aliases.filter fun name _ =>
        Text.covers token name).entries.flatMap (fun entry => t.existing entry.2) =
      (s.aliases.filter fun name _ => Text.covers token name).entries.flatMap
        fun entry => t.existing (entry.2.erase index) := by
    simp only [Keyed.filter, Keyed.map, without]
    rw [List.filter_comm, flatMap_filter_of_nil, List.filter_map, List.flatMap_map]
    · rfl
    · intro entry _ hempty
      exact existing_of_isEmpty _ (by simpa using hempty)
  rw [coveredBy, coveredBy, List.filter_append, hindices, haliases, List.filter_flatMap]
  simp only [existing_without]

theorem WellFormed.resolveToken_without (hs : s.WellFormed) (index token : String) :
    (s.without index).resolveToken token = (s.resolveToken token).filter (· ≠ index) := by
  cases hall : selectsAll token with
  | true => simp only [resolveToken, hall, if_true, without, NameSet.erase]
  | false =>
      cases hstem : Text.stem? token with
      | some stem =>
          have hsome : (Text.stem? token).isSome := by rw [hstem]; rfl
          rw [resolveToken_of_stem hall hsome, resolveToken_of_stem hall hsome, coveredBy_without]
      | none =>
          rw [resolveToken_plain hall hstem, resolveToken_plain hall hstem, get?_without]
          by_cases htoken : token ∈ s.indices
          -- without the index that it names, the token must not be found among the aliases
          · rw [if_pos htoken, hs.disjoint token htoken]
            by_cases hself : token = index <;> simp [without, hself, htoken]
          · have hwithout : token ∉ (s.without index).indices := fun h =>
              htoken (NameSet.mem_erase.1 h).2
            rw [if_neg htoken, if_neg hwithout]
            cases s.aliases.get? token with
            | none => rfl
            | some members => exact existing_others? s index members

theorem WellFormed.resolve_without (hs : s.WellFormed) (index expression : String) :
    (s.without index).resolve expression = (s.resolve expression).filter (· ≠ index) := by
  have htokens : (s.without index).resolveToken =
      fun token => (s.resolveToken token).filter (· ≠ index) :=
    funext (hs.resolveToken_without index)
  calc (s.without index).resolve expression
      = ((tokens expression).flatMap fun token =>
          (s.resolveToken token).filter (· ≠ index)).eraseDups := by rw [resolve, htokens]
    _ = (s.resolve expression).filter (· ≠ index) := by
        rw [← List.filter_flatMap, eraseDups_filter, resolve]

/-! ## Indices that are gone -/

/-- Only its creation brings an index into a snapshot. -/
theorem mem_indices_of_apply {w : Write} (h : s.apply w = .ok t) (hmem : index ∈ t.indices) :
    index ∈ s.indices ∨ w = .createIndex index := by
  cases w with
  | createIndex other =>
      obtain ⟨-, -, rfl⟩ := createIndex_eq_ok.1 h
      rcases NameSet.mem_insert.1 hmem with rfl | hmem
      · exact .inr rfl
      · exact .inl hmem
  | deleteIndex other =>
      obtain ⟨-, rfl⟩ := deleteIndex_eq_ok.1 h
      exact .inl (NameSet.mem_erase.1 hmem).2
  | putAlias name other =>
      obtain ⟨-, -, -, hindices, -⟩ := putAlias_eq_ok_iff.1 h
      exact .inl (hindices ▸ hmem)
  | removeAlias name other =>
      obtain ⟨-, -, -, hindices, -⟩ := removeAlias_eq_ok_iff.1 h
      exact .inl (hindices ▸ hmem)

theorem created_of_mem_after {w : Write} (hgone : index ∉ s.indices)
    (hmem : index ∈ (s.after w).indices) :
    w = .createIndex index ∧ ∃ next, s.createIndex index = .ok next := by
  cases happly : s.apply w with
  | ok next =>
      rw [after_of_apply happly] at hmem
      obtain rfl := (mem_indices_of_apply happly hmem).resolve_left hgone
      exact ⟨rfl, next, happly⟩
  | error e =>
      rw [after, happly] at hmem
      exact absurd hmem hgone

theorem created_of_mem_run {writes : List Write} (hgone : index ∉ s.indices)
    (hmem : index ∈ (s.run writes).indices) :
    ∃ front rest next, writes = front ++ .createIndex index :: rest ∧
      (s.run front).createIndex index = .ok next := by
  induction writes generalizing s with
  | nil => exact absurd hmem hgone
  | cons w writes ih =>
      by_cases hafter : index ∈ (s.after w).indices
      · obtain ⟨rfl, next, hnext⟩ := created_of_mem_after hgone hafter
        exact ⟨[], writes, next, rfl, hnext⟩
      · obtain ⟨front, rest, next, rfl, hnext⟩ := ih hafter hmem
        exact ⟨w :: front, rest, next, rfl, hnext⟩

/-- After every run, a write that is carried out changes what an expression selects by the index
that the write is about and by no other, and an index that is deleted is selected by no expression
before it is created again. -/
theorem resolve_frame (writes : List Write) {w : Write}
    (h : (Snapshot.empty.run writes).apply w = .ok t) :
    (∀ expression, (t.resolve expression).filter (· ≠ w.index) =
      ((Snapshot.empty.run writes).resolve expression).filter (· ≠ w.index)) ∧
    ∀ index, w = .deleteIndex index → ∀ later expression,
      index ∈ (t.run later).resolve expression →
        ∃ front rest next, later = front ++ .createIndex index :: rest ∧
          (t.run front).createIndex index = .ok next := by
  have hs : (Snapshot.empty.run writes).WellFormed := WellFormed.empty.run writes
  have ht : t.WellFormed := after_of_apply h ▸ hs.after w
  constructor
  · intro expression
    rw [← ht.resolve_without, ← hs.resolve_without, without_apply h]
  · rintro index rfl later expression hmem
    obtain ⟨-, rfl⟩ := deleteIndex_eq_ok.1 h
    refine created_of_mem_run (fun hgone => (NameSet.mem_erase.1 hgone).1 rfl) ?_
    exact ((ht.run later).mem_resolve_iff.1 hmem).1

/-- An alias loses a deleted index and keeps the others, and one that had no other member is gone
for patterns as well. -/
theorem resolve_frame_deletion :
    ∃ writes t, writes = [Write.createIndex "logs-1", .createIndex "logs-2",
        .putAlias "all-logs" "logs-1", .putAlias "all-logs" "logs-2",
        .putAlias "all-old" "logs-1"] ∧
      (Snapshot.empty.run writes).apply (.deleteIndex "logs-1") = .ok t ∧
      (t.resolve "all-*,logs-1").filter (· ≠ "logs-1") = ["logs-2"] ∧
      "logs-1" ∉ t.resolve "all-*,logs-1" := by
  have happly : (Snapshot.empty.run [.createIndex "logs-1", .createIndex "logs-2",
      .putAlias "all-logs" "logs-1", .putAlias "all-logs" "logs-2",
      .putAlias "all-old" "logs-1"]).apply (.deleteIndex "logs-1") = .ok _ :=
    apply_deleteIndex (by decide +kernel)
  obtain ⟨hframe, hgone⟩ := resolve_frame _ happly
  refine ⟨_, _, rfl, happly, (hframe _).trans (by decide +kernel), fun hselected => ?_⟩
  obtain ⟨front, rest, -, hlater, -⟩ := hgone _ rfl [] _ hselected
  cases front <;> cases hlater

end Snapshot

end SearchGateway.Registry
