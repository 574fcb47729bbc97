import SearchGateway.Proofs.Registry.Frame

/-!
# Setting up declared indices

The indices of the settings can be set up exactly if all names are acceptable and no alias has the
name of a declared index (`Seedable`). The registry then has what is declared and nothing else
(`Reflects`), so that neither the order of the declarations nor their number matters
(`seeds_exactly`).
-/

namespace SearchGateway.Registry

/-- An index is declared to be a member of an alias. -/
def Lists (declared : List IndexEntry) (index name : String) : Prop :=
  ∃ entry ∈ declared, entry.name = index ∧ name ∈ entry.aliases

/-- Declarations whose names are acceptable, and whose aliases are no declared indices. -/
structure Seedable (declared : List IndexEntry) : Prop where
  indexName : ∀ entry ∈ declared, nameFlaw? entry.name = none
  aliasName : ∀ entry ∈ declared, ∀ name ∈ entry.aliases, nameFlaw? name = none
  disjoint : ∀ entry ∈ declared, ∀ name ∈ entry.aliases, ∀ other ∈ declared, name ≠ other.name

/-- A snapshot has the indices and the memberships that are declared, and no others. -/
structure Reflects (declared : List IndexEntry) (s : Snapshot) : Prop where
  index : ∀ name, name ∈ s.indices ↔ ∃ entry ∈ declared, entry.name = name
  isAlias : ∀ name, (∃ members, s.aliases.get? name = some members) ↔
    ∃ index, Lists declared index name
  member : ∀ name members, s.aliases.get? name = some members →
    ∀ index, index ∈ members ↔ Lists declared index name

/-- Declarations in another order or number: the same entries, each any number of times, and in an
entry the same aliases, each any number of times. -/
inductive Rearranged : List IndexEntry → List IndexEntry → Prop where
  | entries {declared others} : (∀ entry, entry ∈ declared ↔ entry ∈ others) →
      Rearranged declared others
  | aliases (front rest name) {names others} : (∀ other, other ∈ names ↔ other ∈ others) →
      Rearranged (front ++ ⟨name, names⟩ :: rest) (front ++ ⟨name, others⟩ :: rest)
  | trans {declared others further} : Rearranged declared others → Rearranged others further →
      Rearranged declared further

variable {declared others : List IndexEntry} {names : List String} {index name : String}
  {pairs : List (String × String)} {aliases : Keyed NameSet} {s t : Snapshot}

/-! ## Indices -/

theorem mem_foldl_insert {set : NameSet} :
    name ∈ names.foldl NameSet.insert set ↔ name ∈ names ∨ name ∈ set := by
  induction names generalizing set with
  | nil => simp
  | cons first names ih =>
      rw [List.foldl_cons, ih, NameSet.mem_insert, List.mem_cons]
      tauto

/-- Indices are created one after the other as long as their names are acceptable and none of them
is an alias. -/
theorem foldlM_createIndex : (names.map Write.createIndex).foldlM Snapshot.apply s = .ok t ↔
    (∀ name ∈ names, nameFlaw? name = none ∧ s.aliases.get? name = none) ∧
      t = { s with indices := names.foldl NameSet.insert s.indices } := by
  have hfold : names.foldl (fun s name => { s with indices := s.indices.insert name }) s =
      { s with indices := names.foldl NameSet.insert s.indices } :=
    List.foldl_hom (fun indices => { s with indices }) fun _ _ => rfl
  rw [List.foldlM_map, ← hfold]
  have hstep (s : Snapshot) (name : String) (t : Snapshot) : s.apply (.createIndex name) = .ok t ↔
      (nameFlaw? name = none ∧ s.aliases.get? name = none) ∧
        t = { s with indices := s.indices.insert name } := by
    rw [Snapshot.apply, Snapshot.createIndex_eq_ok, and_assoc]
  exact foldlM_eq_ok_iff hstep fun _ _ _ => Iff.rfl

/-! ## Memberships -/

/-- Aliases with further memberships, given as pairs of an alias and an index. -/
def join (aliases : Keyed NameSet) (pairs : List (String × String)) : Keyed NameSet :=
  pairs.foldl (fun aliases pair =>
    aliases.insert pair.1 (((aliases.get? pair.1).getD .empty).insert pair.2)) aliases

theorem join_cons {pair : String × String} : join aliases (pair :: pairs) =
    join (aliases.insert pair.1 (((aliases.get? pair.1).getD .empty).insert pair.2)) pairs := rfl

theorem exists_get?_join : (∃ members, (join aliases pairs).get? name = some members) ↔
    (∃ index, (name, index) ∈ pairs) ∨ ∃ members, aliases.get? name = some members := by
  induction pairs generalizing aliases with
  | nil => simp [join]
  | cons pair pairs ih =>
      obtain ⟨other, index⟩ := pair
      rw [join_cons, ih, Keyed.get?_insert]
      by_cases h : other = name
      · subst h
        simp
      · simp [h, Ne.symm h]

theorem mem_get?_join : index ∈ ((join aliases pairs).get? name).getD .empty ↔
    (name, index) ∈ pairs ∨ index ∈ (aliases.get? name).getD .empty := by
  induction pairs generalizing aliases with
  | nil => simp [join]
  | cons pair pairs ih =>
      obtain ⟨other, member⟩ := pair
      rw [join_cons, ih, Keyed.get?_insert]
      by_cases h : other = name
      · subst h
        simp only [if_true, Option.getD_some, NameSet.mem_insert, List.mem_cons, Prod.mk.injEq,
          true_and]
        tauto
      · simp [h, Ne.symm h]

/-- Memberships begin one after the other as long as their aliases are acceptable names of no index
and their indices exist. -/
theorem foldlM_putAlias :
    (pairs.map fun pair => Write.putAlias pair.1 pair.2).foldlM Snapshot.apply s = .ok t ↔
      (∀ pair ∈ pairs, nameFlaw? pair.1 = none ∧ pair.2 ∈ s.indices ∧ pair.1 ∉ s.indices) ∧
        t = { s with aliases := join s.aliases pairs } := by
  have hfold : pairs.foldl (fun s pair =>
        { s with
          aliases := s.aliases.insert pair.1
            (((s.aliases.get? pair.1).getD .empty).insert pair.2) }) s =
      { s with aliases := join s.aliases pairs } :=
    List.foldl_hom (fun aliases => { s with aliases }) fun _ _ => rfl
  rw [List.foldlM_map, ← hfold]
  have hstep (s : Snapshot) (pair : String × String) (t : Snapshot) :
      s.apply (.putAlias pair.1 pair.2) = .ok t ↔
        (nameFlaw? pair.1 = none ∧ pair.2 ∈ s.indices ∧ pair.1 ∉ s.indices) ∧
          t = { s with
            aliases := s.aliases.insert pair.1
              (((s.aliases.get? pair.1).getD .empty).insert pair.2) } := by
    rw [Snapshot.apply, Snapshot.putAlias_eq_ok, and_assoc, and_assoc]
  exact foldlM_eq_ok_iff hstep fun _ _ _ => Iff.rfl

/-! ## Declarations -/

/-- The declared memberships, as pairs of an alias and an index. -/
def memberships (declared : List IndexEntry) : List (String × String) :=
  declared.flatMap fun entry => entry.aliases.map (·, entry.name)

theorem mem_memberships : (name, index) ∈ memberships declared ↔ Lists declared index name := by
  simp only [memberships, List.mem_flatMap, List.mem_map, Prod.mk.injEq, Lists]
  refine exists_congr fun entry => and_congr_right fun _ => ?_
  constructor
  · rintro ⟨_, halias, rfl, hindex⟩
    exact ⟨hindex, halias⟩
  · rintro ⟨hindex, halias⟩
    exact ⟨name, halias, rfl, hindex⟩

theorem seedWrites_eq (declared : List IndexEntry) : seedWrites declared =
    (declared.map (·.name)).map Write.createIndex ++
      (memberships declared).map fun pair => .putAlias pair.1 pair.2 := by
  simp [seedWrites, memberships, List.map_flatMap, Function.comp_def]

/-- The registry of the declarations. -/
def declaredSnapshot (declared : List IndexEntry) : Snapshot where
  indices := (declared.map (·.name)).foldl NameSet.insert .empty
  aliases := join .empty (memberships declared)

theorem reflects_declaredSnapshot (declared : List IndexEntry) :
    Reflects declared (declaredSnapshot declared) := by
  constructor
  · intro name
    simp [declaredSnapshot, mem_foldl_insert]
  · intro name
    simp [declaredSnapshot, exists_get?_join, mem_memberships]
  · intro name members hmembers index
    have hmember : index ∈ ((declaredSnapshot declared).aliases.get? name).getD .empty ↔
        Lists declared index name := by
      simp [declaredSnapshot, mem_get?_join, mem_memberships]
    rwa [hmembers, Option.getD_some] at hmember

theorem Reflects.get?_eq {members : NameSet} (hs : Reflects declared s) (ht : Reflects declared t)
    (h : s.aliases.get? name = some members) : t.aliases.get? name = some members := by
  obtain ⟨others, hothers⟩ := (ht.isAlias name).2 ((hs.isAlias name).1 ⟨members, h⟩)
  have hsame : members = others := NameSet.ext_mem fun index => by
    rw [hs.member name members h, ht.member name others hothers]
  rw [hothers, hsame]

theorem Reflects.unique (hs : Reflects declared s) (ht : Reflects declared t) : s = t := by
  refine Snapshot.ext_members (fun name => ?_) fun name => Option.ext fun members => ?_
  · rw [hs.index, ht.index]
  · exact ⟨hs.get?_eq ht, ht.get?_eq hs⟩

/-! ## When declarations can be set up -/

theorem seedable_iff_lists : Seedable declared ↔
    (∀ name, (∃ entry ∈ declared, entry.name = name) → nameFlaw? name = none) ∧
      ∀ index name, Lists declared index name →
        nameFlaw? name = none ∧ ¬ ∃ entry ∈ declared, entry.name = name := by
  constructor
  · intro h
    constructor
    · rintro _ ⟨entry, hentry, rfl⟩
      exact h.indexName entry hentry
    · rintro index name ⟨entry, hentry, -, hname⟩
      refine ⟨h.aliasName entry hentry name hname, ?_⟩
      rintro ⟨other, hother, hsame⟩
      exact h.disjoint entry hentry name hname other hother hsame.symm
  · rintro ⟨hindices, haliases⟩
    have hlisted (entry) (hentry : entry ∈ declared) (name) (hname : name ∈ entry.aliases) :=
      haliases entry.name name ⟨entry, hentry, rfl, hname⟩
    constructor
    · intro entry hentry
      exact hindices entry.name ⟨entry, hentry, rfl⟩
    · intro entry hentry name hname
      exact (hlisted entry hentry name hname).1
    · rintro entry hentry _ hname other hother rfl
      exact (hlisted entry hentry _ hname).2 ⟨other, hother, rfl⟩

theorem seed_eq_ok_iff :
    seed declared = .ok s ↔ Seedable declared ∧ s = declaredSnapshot declared := by
  have hindices := (reflects_declaredSnapshot declared).index
  rw [seed, seedWrites_eq, List.foldlM_append, bind_eq_ok_iff, seedable_iff_lists]
  simp only [foldlM_createIndex, foldlM_putAlias]
  constructor
  · rintro ⟨_, ⟨hnames, rfl⟩, hpairs, rfl⟩
    refine ⟨⟨fun name hname => (hnames name (by simpa using hname)).1,
      fun index name hlisted => ?_⟩, rfl⟩
    obtain ⟨hflaw, -, hnew⟩ := hpairs (name, index) (mem_memberships.2 hlisted)
    exact ⟨hflaw, fun hname => hnew ((hindices name).2 hname)⟩
  · rintro ⟨⟨hnames, hlists⟩, rfl⟩
    refine ⟨_, ⟨fun name hname => ⟨hnames name (by simpa using hname), rfl⟩, rfl⟩, ?_, rfl⟩
    rintro ⟨name, index⟩ hpair
    have hlisted := mem_memberships.1 hpair
    obtain ⟨hflaw, hnew⟩ := hlists index name hlisted
    obtain ⟨entry, hentry, hindex, -⟩ := hlisted
    exact ⟨hflaw, (hindices index).2 ⟨entry, hentry, hindex⟩, mt (hindices name).1 hnew⟩

theorem seed_eq_ok_iff_reflects :
    seed declared = .ok s ↔ Seedable declared ∧ Reflects declared s := by
  rw [seed_eq_ok_iff]
  refine and_congr_right fun _ => ⟨?_, fun h => h.unique (reflects_declaredSnapshot declared)⟩
  rintro rfl
  exact reflects_declaredSnapshot declared

theorem exists_seed_iff : (∃ s, seed declared = .ok s) ↔ Seedable declared := by
  simp only [seed_eq_ok_iff, exists_and_left, exists_eq, and_true]

/-! ## Rearranged declarations -/

/-- Declarations of the same indices with the same memberships. -/
structure SameDeclared (declared others : List IndexEntry) : Prop where
  index : ∀ name, (∃ entry ∈ declared, entry.name = name) ↔ ∃ entry ∈ others, entry.name = name
  member : ∀ index name, Lists declared index name ↔ Lists others index name

theorem SameDeclared.symm (h : SameDeclared declared others) : SameDeclared others declared :=
  ⟨fun name => (h.index name).symm, fun index name => (h.member index name).symm⟩

theorem SameDeclared.trans {further : List IndexEntry} (h : SameDeclared declared others)
    (h' : SameDeclared others further) : SameDeclared declared further :=
  ⟨fun name => (h.index name).trans (h'.index name),
    fun index name => (h.member index name).trans (h'.member index name)⟩

theorem Rearranged.sameDeclared (h : Rearranged declared others) :
    SameDeclared declared others := by
  induction h with
  | entries hentries =>
      exact ⟨fun name => by simp only [hentries], fun index name => by simp only [Lists, hentries]⟩
  | aliases front rest indexName hnames =>
      constructor
      · intro name
        simp [or_and_right, exists_or]
      · intro index name
        simp [Lists, or_and_right, exists_or, hnames]
  | trans _ _ ih ih' => exact ih.trans ih'

theorem SameDeclared.seedable_iff (h : SameDeclared declared others) :
    Seedable others ↔ Seedable declared := by
  simp only [seedable_iff_lists, h.index, h.member]

theorem SameDeclared.reflects (h : SameDeclared declared others) (hs : Reflects declared s) :
    Reflects others s := by
  constructor
  · intro name
    rw [hs.index, h.index]
  · intro name
    rw [hs.isAlias]
    simp only [h.member]
  · intro name members hmembers index
    rw [hs.member name members hmembers, h.member]

theorem SameDeclared.seed_eq (h : SameDeclared declared others) :
    (seed others).toOption = (seed declared).toOption := by
  ext s
  rw [toOption_eq_some_iff, toOption_eq_some_iff, seed_eq_ok_iff_reflects,
    seed_eq_ok_iff_reflects, h.seedable_iff]
  exact and_congr_right fun _ => ⟨h.symm.reflects, h.reflects⟩

/-- Declared indices can be set up exactly if all names are acceptable and no alias is declared as
an index, wherever in the list. The registry then has the declared indices, and the members of an
alias are the indices that list it. Declarations in another order or number give the same
registry. -/
theorem seeds_exactly (declared : List IndexEntry) :
    ((∃ s, seed declared = .ok s) ↔ Seedable declared) ∧
    (∀ s, seed declared = .ok s ↔ Seedable declared ∧ Reflects declared s) ∧
    ∀ others, Rearranged declared others →
      (seed others).toOption = (seed declared).toOption :=
  ⟨exists_seed_iff, fun _ => seed_eq_ok_iff_reflects,
    fun _ hothers => hothers.sameDeclared.seed_eq⟩

/-- Declarations that repeat an index. -/
def repeatedEntries : List IndexEntry :=
  [⟨"logs-1", ["logs"]⟩, ⟨"logs-2", ["logs", "all"]⟩, ⟨"logs-1", ["all"]⟩]

/-- These declarations in another order, one of them twice and one with an alias twice. -/
def rearrangedEntries : List IndexEntry :=
  [⟨"logs-1", ["all"]⟩, ⟨"logs-1", ["logs"]⟩, ⟨"logs-1", ["all"]⟩,
    ⟨"logs-2", ["all", "logs", "all"]⟩]

/-- Repeated entries add up in any order, and an alias may not be an index that is declared after
it. -/
theorem seeds_exactly_repeated :
    Rearranged repeatedEntries rearrangedEntries ∧
    ∃ s, seed repeatedEntries = .ok s ∧ seed rearrangedEntries = .ok s ∧
      s.resolve "all" = ["logs-1", "logs-2"] ∧
      ¬ ∃ s, seed [⟨"logs-1", ["logs"]⟩, ⟨"logs", []⟩] = .ok s := by
  have hordered : Rearranged repeatedEntries [⟨"logs-1", ["all"]⟩, ⟨"logs-1", ["logs"]⟩,
      ⟨"logs-1", ["all"]⟩, ⟨"logs-2", ["logs", "all"]⟩] := by
    refine .entries fun entry => ?_
    simp only [repeatedEntries, List.mem_cons, List.not_mem_nil, or_false]
    tauto
  have hnames : ∀ other, other ∈ ["logs", "all"] ↔ other ∈ ["all", "logs", "all"] := by
    intro other
    simp only [List.mem_cons, List.not_mem_nil, or_false]
    tauto
  have hrearranged : Rearranged repeatedEntries rearrangedEntries :=
    hordered.trans (.aliases
      [⟨"logs-1", ["all"]⟩, ⟨"logs-1", ["logs"]⟩, ⟨"logs-1", ["all"]⟩] [] "logs-2" hnames)
  have hresolved : (seed repeatedEntries).toOption.map (·.resolve "all") =
      some ["logs-1", "logs-2"] := by
    decide +kernel
  obtain ⟨s, hs, hresolve⟩ := Option.map_eq_some_iff.1 hresolved
  have hsame := (seeds_exactly repeatedEntries).2.2 _ hrearranged
  refine ⟨hrearranged, s, toOption_eq_some_iff.1 hs, toOption_eq_some_iff.1 (hsame.trans hs),
    hresolve, fun hseed => ?_⟩
  have hclash := ((seeds_exactly _).1.1 hseed).disjoint ⟨"logs-1", ["logs"]⟩ (by simp) "logs"
    (by simp) ⟨"logs", []⟩ (by simp)
  exact hclash rfl

end SearchGateway.Registry
