import SearchGateway.Proofs.Registry.Name
import SearchGateway.Proofs.Registry.WriteTargets
import SearchGateway.Proofs.Text.Blank

/-!
# Indices by their names

Names joined by commas select what each of them selects, one after the other
(`Snapshot.resolve_joinWith`). A list of indices is therefore found again from its names if each
of them can be named. An index cannot be named if its name begins or ends with a blank, unless what
is left of the name happens to lead to it: a name may hold every blank but the space, and a token
has none at its ends (`Snapshot.resolve_joined_iff`).
-/

namespace SearchGateway.Registry

namespace Snapshot

variable {s : Snapshot} {index : String}

/-! ## Joined names -/

theorem resolve_joinWith (s : Snapshot) (names : List String) :
    s.resolve (Text.joinWith ',' names) = (names.flatMap s.resolve).eraseDups := by
  calc s.resolve (Text.joinWith ',' names)
      = (names.flatMap fun name => (tokens name).flatMap s.resolveToken).eraseDups := by
        rw [resolve, tokens_joinWith, List.flatMap_assoc]
    _ = (names.flatMap s.resolve).eraseDups := (eraseDups_flatMap _ _).symm

/-! ## One name -/

/-- When the expression that consists of the name of an index leads to this index alone: the name
has no blank at its ends, or what is left of it is another name for the index. -/
inductive Nameable (s : Snapshot) (index : String) : Prop where
  | itself : Text.trimmed index = index → s.Nameable index
  | onlyMember {members} : s.aliases.get? (Text.trimmed index) = some members →
      members.toList = [index] → s.Nameable index
  | onlyIndex : Text.trimmed index = "_all" → s.indices.toList = [index] → s.Nameable index

theorem resolve_of_not_mem (h : ',' ∉ index.toList) :
    s.resolve index =
      if Text.trimmed index = "" then [] else (s.resolveToken (Text.trimmed index)).eraseDups := by
  rw [resolve, tokens_of_not_mem h]
  split <;> simp

theorem resolveToken_all (s : Snapshot) : s.resolveToken "_all" = s.indices.toList := rfl

theorem ne_all_of_nameFlaw? {name : String} (h : nameFlaw? name = none) : name ≠ "_all" := by
  rintro rfl
  cases h

theorem WellFormed.resolve_eq_singleton_iff (hs : s.WellFormed) (hindex : index ∈ s.indices) :
    s.resolve index = [index] ↔ s.Nameable index := by
  have hname : nameFlaw? index = none := hs.indexName index hindex
  have hcomma : ',' ∉ index.toList := not_mem_of_nameFlaw? hname (by decide)
  have hstar : '*' ∉ (Text.trimmed index).toList := fun hmem =>
    not_mem_of_nameFlaw? hname (by decide) (Text.mem_of_mem_trimmed hmem)
  rw [resolve_of_not_mem hcomma]
  constructor
  · intro h
    split at h
    · cases h
    -- what is left of the name can be the word for all indices, an alias, an index or unknown
    by_cases hall : Text.trimmed index = "_all"
    · rw [hall, resolveToken_all, eraseDups_eq_self s.indices.nodup] at h
      exact .onlyIndex hall h
    cases halias : s.aliases.get? (Text.trimmed index) with
    | some members =>
        rw [hs.resolveToken_alias halias hall hstar, eraseDups_eq_self members.nodup] at h
        exact .onlyMember halias h
    | none =>
        rw [resolveToken_plain (selectsAll_eq_false hall hstar) (Text.stem?_eq_none hstar),
          halias] at h
        split at h
        · exact .itself (by simpa [List.eraseDups_cons] using h)
        · cases h
  · intro h
    cases h with
    | itself htrimmed =>
        rw [htrimmed] at hstar ⊢
        have hall : selectsAll index = false :=
          selectsAll_eq_false (ne_all_of_nameFlaw? hname) hstar
        rw [if_neg (ne_empty_of_nameFlaw? hname),
          resolveToken_plain hall (Text.stem?_eq_none hstar), if_pos hindex]
        rfl
    | onlyMember halias hmembers =>
        have hflaw : nameFlaw? (Text.trimmed index) = none := hs.aliasName _ _ halias
        rw [if_neg (ne_empty_of_nameFlaw? hflaw),
          hs.resolveToken_alias halias (ne_all_of_nameFlaw? hflaw) hstar, hmembers]
        rfl
    | onlyIndex hall hindices =>
        rw [hall, if_neg (by decide), resolveToken_all, hindices]
        rfl

/-! ## Several names -/

theorem WellFormed.resolve_joined (hs : s.WellFormed) {names : List String} (hnodup : names.Nodup)
    (h : ∀ name ∈ names, name ∈ s.indices ∧ s.Nameable name) :
    s.resolve (Text.joinWith ',' names) = names := by
  have hone : ∀ name ∈ names, s.resolve name = [name] := fun name hname =>
    (hs.resolve_eq_singleton_iff (h name hname).1).2 (h name hname).2
  calc s.resolve (Text.joinWith ',' names)
      = (names.flatMap s.resolve).eraseDups := resolve_joinWith s names
    _ = (names.flatMap fun name => [name]).eraseDups := by rw [List.flatMap_congr hone]
    _ = names := by rw [List.flatMap_singleton', eraseDups_eq_self hnodup]

/-- After every run, a list of indices and all parts of it are found again from their names joined
by commas exactly if each of the indices can be named. What an expression selects is therefore an
expression for itself as long as it can be named. -/
theorem resolve_joined_iff (writes : List Write) :
    (∀ names : List String, names.Nodup →
      (∀ name ∈ names, name ∈ (Snapshot.empty.run writes).indices) →
      ((∀ part, part.Sublist names →
          (Snapshot.empty.run writes).resolve (Text.joinWith ',' part) = part) ↔
        ∀ name ∈ names, (Snapshot.empty.run writes).Nameable name)) ∧
    ∀ expression,
      (∀ name ∈ (Snapshot.empty.run writes).resolve expression,
        (Snapshot.empty.run writes).Nameable name) →
      (Snapshot.empty.run writes).resolve
          (Text.joinWith ',' ((Snapshot.empty.run writes).resolve expression)) =
        (Snapshot.empty.run writes).resolve expression := by
  have hs : (Snapshot.empty.run writes).WellFormed := WellFormed.empty.run writes
  refine ⟨fun names hnodup hindices => ⟨?_, ?_⟩, ?_⟩
  · intro hparts name hname
    rw [← hs.resolve_eq_singleton_iff (hindices name hname)]
    simpa [Text.joinWith] using hparts [name] (List.singleton_sublist.2 hname)
  · intro hnameable part hpart
    refine hs.resolve_joined (hnodup.sublist hpart) fun name hname => ?_
    exact ⟨hindices name (hpart.subset hname), hnameable name (hpart.subset hname)⟩
  · intro expression hnameable
    refine hs.resolve_joined (nodup_resolve _ _) fun name hname => ?_
    exact ⟨(hs.mem_resolve_iff.1 hname).1, hnameable name hname⟩

/-- A blank within a name does no harm, and one at its end does none if the rest of the name is an
alias of this index alone. -/
theorem resolve_joined_blanks :
    ∃ s, s = Snapshot.empty.run
        [.createIndex "a\tb", .createIndex "logs\t", .putAlias "logs" "logs\t"] ∧
      ["logs\t", "a\tb"].Nodup ∧ (∀ name ∈ ["logs\t", "a\tb"], name ∈ s.indices) ∧
      (∀ name ∈ ["logs\t", "a\tb"], s.Nameable name) ∧
      s.resolve "logs\t,a\tb" = ["logs\t", "a\tb"] := by
  have hnodup : ["logs\t", "a\tb"].Nodup := by decide
  have hindices : ∀ name ∈ ["logs\t", "a\tb"], name ∈ (Snapshot.empty.run
      [.createIndex "a\tb", .createIndex "logs\t", .putAlias "logs" "logs\t"]).indices := by
    decide +kernel
  have hnameable : ∀ name ∈ ["logs\t", "a\tb"], (Snapshot.empty.run
      [.createIndex "a\tb", .createIndex "logs\t", .putAlias "logs" "logs\t"]).Nameable name := by
    intro name hname
    rcases List.mem_pair.1 hname with rfl | rfl
    · have halias : (Snapshot.empty.run [.createIndex "a\tb", .createIndex "logs\t",
          .putAlias "logs" "logs\t"]).aliases.get? (Text.trimmed "logs\t") =
            some (NameSet.empty.insert "logs\t") := by
        decide +kernel
      exact .onlyMember halias (by decide)
    · exact .itself (by decide +kernel)
  have hresolve := ((resolve_joined_iff _).1 _ hnodup hindices).2 hnameable _ (List.Sublist.refl _)
  have hjoined : Text.joinWith ',' ["logs\t", "a\tb"] = "logs\t,a\tb" := by decide +kernel
  rw [hjoined] at hresolve
  exact ⟨_, rfl, hnodup, hindices, hnameable, hresolve⟩

/-- A name that ends in a blank leads to another index. -/
theorem resolve_blank_end :
    ¬ ∀ (writes : List Write) (names : List String), names.Nodup →
      (∀ name ∈ names, name ∈ (Snapshot.empty.run writes).indices) →
        (Snapshot.empty.run writes).resolve (Text.joinWith ',' names) = names := by
  intro hall
  have hindices : ∀ name ∈ ["logs\t"],
      name ∈ (Snapshot.empty.run [.createIndex "logs", .createIndex "logs\t"]).indices := by
    decide +kernel
  have hresolve : (Snapshot.empty.run [.createIndex "logs", .createIndex "logs\t"]).resolve
      (Text.joinWith ',' ["logs\t"]) = ["logs"] := by
    decide +kernel
  have hself := hall _ _ (List.nodup_singleton _) hindices
  rw [hresolve] at hself
  exact absurd hself (by decide)

end Snapshot

end SearchGateway.Registry
