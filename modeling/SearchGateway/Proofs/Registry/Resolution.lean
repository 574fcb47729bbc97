import SearchGateway.Proofs.Lists
import SearchGateway.Proofs.Registry.Invariant
import SearchGateway.Proofs.Registry.Target
import SearchGateway.Proofs.Text.Pattern

/-!
# What an expression selects

An expression selects the indices that one of its tokens names (`Snapshot.Names`), each once. A
second expression after a comma adds the indices that the first one does not select. The token `*`
is no case of its own: it selects what any other token with a final star would select in its place
(`Snapshot.resolvesByGrammar_run`).
-/

namespace SearchGateway.Registry

namespace Snapshot

variable {s : Snapshot} {token index name start : String}

/-- How a token of an expression names an index: by a word for all indices, by the name of the index
or of an alias that it is a member of, or by the start of one of these names with a star. -/
inductive Names (s : Snapshot) (index : String) : String → Prop where
  | all : s.Names index "_all"
  | star : s.Names index "*"
  | itself : s.Names index index
  | member {name members} :
      s.aliases.get? name = some members → index ∈ members → s.Names index name
  | startOfIndex {start : String} : start.toList <+: index.toList → s.Names index (start ++ "*")
  | startOfAlias {start name : String} {members} :
      start.toList <+: name.toList → s.aliases.get? name = some members → index ∈ members →
        s.Names index (start ++ "*")

/-! ## Patterns -/

/-- What a token with a final star selects: the indices that it covers, then the members of the
aliases that it covers. -/
def coveredBy (s : Snapshot) (token : String) : List String :=
  s.indices.toList.filter (Text.covers token) ++
    (s.aliases.filter fun name _ => Text.covers token name).entries.flatMap
      fun entry => s.existing entry.2

theorem mem_existing {members : NameSet} :
    index ∈ s.existing members ↔ index ∈ members ∧ index ∈ s.indices := by
  simp [existing, NameSet.mem_def]

theorem mem_coveredBy :
    index ∈ s.coveredBy token ↔ index ∈ s.indices ∧ (Text.covers token index ∨
      ∃ name members, Text.covers token name ∧ s.aliases.get? name = some members ∧
        index ∈ members) := by
  simp only [coveredBy, List.mem_append, List.mem_filter, List.mem_flatMap, Keyed.filter,
    Prod.exists, mem_existing, ← Keyed.get?_eq_some_iff, NameSet.mem_def]
  constructor
  · rintro (⟨hindex, hcovers⟩ | ⟨name, members, ⟨hget, hcovers⟩, hmember, hindex⟩)
    · exact ⟨hindex, .inl hcovers⟩
    · exact ⟨hindex, .inr ⟨name, members, hcovers, hget, hmember⟩⟩
  · rintro ⟨hindex, hcovers | ⟨name, members, hcovers, hget, hmember⟩⟩
    · exact .inl ⟨hindex, hcovers⟩
    · exact .inr ⟨name, members, ⟨hget, hcovers⟩, hmember, hindex⟩

/-- The members that an alias adds are indices, so they add nothing where a star covers every
index. -/
theorem resolveToken_star : s.resolveToken "*" = (s.coveredBy "*").eraseDups := by
  have hcovers (text : String) : Text.covers "*" text = true :=
    (@Text.covers_star "" text).2 List.nil_prefix
  have hmembers : ∀ index ∈ (s.aliases.filter fun name _ => Text.covers "*" name).entries.flatMap
      fun entry => s.existing entry.2, index ∈ s.indices.toList := by
    intro index hindex
    obtain ⟨entry, -, hentry⟩ := List.mem_flatMap.1 hindex
    exact (mem_existing.1 hentry).2
  have hselected : s.indices.toList.filter (Text.covers "*") = s.indices.toList :=
    List.filter_eq_self.2 fun text _ => hcovers text
  have hadded : ((s.aliases.filter fun name _ => Text.covers "*" name).entries.flatMap
      fun entry => s.existing entry.2).eraseDups.filter (· ∉ s.indices.toList) = [] := by
    rw [List.filter_eq_nil_iff]
    intro index hindex
    simpa using hmembers index (List.mem_eraseDups.1 hindex)
  rw [coveredBy, hselected, eraseDups_append, eraseDups_eq_self s.indices.nodup, hadded,
    List.append_nil]
  rfl

/-! ## One token -/

theorem selectsAll_iff : selectsAll token = true ↔ token = "_all" ∨ token = "*" := by
  simp [selectsAll]

theorem selectsAll_eq_false (hall : token ≠ "_all") (hstar : '*' ∉ token.toList) :
    selectsAll token = false := by
  rw [Bool.eq_false_iff, ne_eq, selectsAll_iff, not_or]
  exact ⟨hall, fun heq => hstar (by rw [heq]; decide)⟩

theorem resolveToken_of_stem (hall : selectsAll token = false)
    (hstem : (Text.stem? token).isSome) : s.resolveToken token = s.coveredBy token := by
  simp [resolveToken, hall, hstem, coveredBy]

theorem resolveToken_plain (hall : selectsAll token = false) (hstem : Text.stem? token = none) :
    s.resolveToken token =
      if token ∈ s.indices then [token] else ((s.aliases.get? token).map s.existing).getD [] := by
  simp only [resolveToken, hall, hstem, Option.isSome_none, Bool.false_eq_true, if_false]
  cases s.aliases.get? token <;> rfl

theorem selectsAll_append_star (h : start ≠ "") : selectsAll (start ++ "*") = false := by
  rw [Bool.eq_false_iff, ne_eq, selectsAll_iff]
  rintro (hword | hstar)
  · have hlast := congrArg (fun text : String => text.toList.getLast?) hword
    simp at hlast
  · exact h (String.append_right_inj "*" |>.1 (by simpa using hstar))

/-- A token that covers the name of an index or of one of its aliases names the index. -/
theorem Names.of_covers (hcovers : Text.covers token name)
    (hname : name = index ∨ ∃ members, s.aliases.get? name = some members ∧ index ∈ members) :
    s.Names index token := by
  unfold Text.covers at hcovers
  split at hcovers
  · rename_i stem hstem
    rw [Text.stem?_eq_some_iff.1 hstem]
    have hprefix : (String.ofList stem).toList <+: name.toList := by
      simpa using List.isPrefixOf_iff_prefix.1 hcovers
    rcases hname with rfl | ⟨members, hmembers, hindex⟩
    · exact .startOfIndex hprefix
    · exact .startOfAlias hprefix hmembers hindex
  · rw [beq_iff_eq] at hcovers
    subst hcovers
    rcases hname with rfl | ⟨members, hmembers, hindex⟩
    · exact .itself
    · exact .member hmembers hindex

theorem Names.covers (h : s.Names index token) (hall : selectsAll token = false) :
    Text.covers token index ∨ ∃ name members, Text.covers token name ∧
      s.aliases.get? name = some members ∧ index ∈ members := by
  cases h with
  | all | star => cases hall
  | itself => exact .inl (Text.covers_self _)
  | member hmembers hindex => exact .inr ⟨_, _, Text.covers_self _, hmembers, hindex⟩
  | startOfIndex hprefix => exact .inl (Text.covers_star.2 hprefix)
  | startOfAlias hprefix hmembers hindex =>
      exact .inr ⟨_, _, Text.covers_star.2 hprefix, hmembers, hindex⟩

theorem WellFormed.mem_resolveToken_plain (hs : s.WellFormed) (hall : selectsAll token = false)
    (hstem : Text.stem? token = none) :
    index ∈ s.resolveToken token ↔ index ∈ s.indices ∧
      (token = index ∨ ∃ members, s.aliases.get? token = some members ∧ index ∈ members) := by
  simp only [resolveToken, hall, hstem, Bool.false_eq_true, if_false, Option.isSome_none]
  by_cases htoken : token ∈ s.indices
  · rw [if_pos htoken, List.mem_singleton]
    constructor
    · rintro rfl
      exact ⟨htoken, .inl rfl⟩
    · rintro ⟨-, rfl | ⟨members, hmembers, -⟩⟩
      · rfl
      · rw [hs.disjoint token htoken] at hmembers
        cases hmembers
  · rw [if_neg htoken]
    constructor
    · intro h
      split at h
      · rename_i members hmembers
        obtain ⟨hmember, hindex⟩ := mem_existing.1 h
        exact ⟨hindex, .inr ⟨members, hmembers, hmember⟩⟩
      · cases h
    · rintro ⟨hindex, rfl | ⟨members, hmembers, hmember⟩⟩
      · exact absurd hindex htoken
      · rw [hmembers]
        exact mem_existing.2 ⟨hmember, hindex⟩

/-- Every token selects the indices that it names. -/
theorem WellFormed.mem_resolveToken_iff (hs : s.WellFormed) :
    index ∈ s.resolveToken token ↔ index ∈ s.indices ∧ s.Names index token := by
  cases hall : selectsAll token with
  | true =>
      have hnames : s.Names index token := by
        rcases selectsAll_iff.1 hall with rfl | rfl
        · exact .all
        · exact .star
      simp [resolveToken, hall, hnames, NameSet.mem_def]
  | false =>
      -- apart from the words for all indices, to name an index is to cover one of its names
      have hnames : s.Names index token ↔ Text.covers token index ∨
          ∃ name members, Text.covers token name ∧ s.aliases.get? name = some members ∧
            index ∈ members := by
        refine ⟨fun h => h.covers hall, ?_⟩
        rintro (hcovers | ⟨name, members, hcovers, hmembers, hindex⟩)
        · exact .of_covers hcovers (.inl rfl)
        · exact .of_covers hcovers (.inr ⟨members, hmembers, hindex⟩)
      rw [hnames]
      cases hstem : Text.stem? token with
      | some stem =>
          rw [resolveToken_of_stem hall (by simp [hstem]), mem_coveredBy]
      | none =>
          have hcovers (name : String) : Text.covers token name = true ↔ token = name := by
            simp [Text.covers, hstem]
          simp only [hs.mem_resolveToken_plain hall hstem, hcovers, exists_and_left,
            exists_eq_left']

/-! ## Expressions -/

theorem nodup_resolve (s : Snapshot) (expression : String) : (s.resolve expression).Nodup :=
  nodup_eraseDups _

theorem WellFormed.mem_resolve_iff (hs : s.WellFormed) {expression : String} :
    index ∈ s.resolve expression ↔
      index ∈ s.indices ∧ ∃ token ∈ tokens expression, s.Names index token := by
  simp only [resolve, List.mem_eraseDups, List.mem_flatMap, hs.mem_resolveToken_iff]
  constructor
  · rintro ⟨token, htoken, hindex, hnames⟩
    exact ⟨hindex, token, htoken, hnames⟩
  · rintro ⟨hindex, token, htoken, hnames⟩
    exact ⟨token, htoken, hindex, hnames⟩

theorem resolve_append (s : Snapshot) (first second : String) :
    s.resolve (first ++ "," ++ second) =
      s.resolve first ++ (s.resolve second).filter (· ∉ s.resolve first) := by
  rw [resolve, tokens_append, List.flatMap_append, eraseDups_append]
  rfl

/-- What an expression selects is said by the grammar of its tokens alone. -/
structure ResolvesByGrammar (s : Snapshot) : Prop where
  mem_iff : ∀ expression index, index ∈ s.resolve expression ↔
    index ∈ s.indices ∧ ∃ token ∈ tokens expression, s.Names index token
  nodup : ∀ expression, (s.resolve expression).Nodup
  append : ∀ first second, s.resolve (first ++ "," ++ second) =
    s.resolve first ++ (s.resolve second).filter (· ∉ s.resolve first)
  covered : ∀ start ≠ "", s.resolveToken (start ++ "*") = s.coveredBy (start ++ "*")
  star : s.resolveToken "*" = (s.coveredBy "*").eraseDups

/-- After every run of writes an expression selects the indices that its tokens name, each once and
in the order of the tokens. -/
theorem resolvesByGrammar_run (writes : List Write) :
    (Snapshot.empty.run writes).ResolvesByGrammar where
  mem_iff _ _ := (WellFormed.empty.run writes).mem_resolve_iff
  nodup expression := nodup_resolve _ expression
  append first second := resolve_append _ first second
  covered start h := resolveToken_of_stem (selectsAll_append_star h) (by simp)
  star := resolveToken_star

/-- An index that was met as a member of an alias is not met again by its own name. -/
example :
    (Snapshot.empty.run [.createIndex "logs-1", .createIndex "logs-2", .createIndex "products",
      .putAlias "logs" "logs-1", .putAlias "logs" "logs-2"]).resolve "products, logs,logs-1,," =
      ["products", "logs-1", "logs-2"] := by
  decide +kernel

end Snapshot

end SearchGateway.Registry
