/-!
# Finite maps keyed by text

Entries are kept in strictly increasing order of their keys, so two maps with the same look-ups
are equal. Main statements: `get?_insert`, `get?_erase` and `Keyed.ext_get?`.
-/

namespace SearchGateway

/-- A finite map from texts; the order of the entries is the order of their keys. -/
@[ext] structure Keyed (α : Type u) where
  entries : List (String × α)
  sorted : entries.Pairwise fun a b => a.1 < b.1
deriving DecidableEq

namespace Keyed

variable {α : Type u}

/-- Entries with the value for `k` set, at its place in the order. -/
def insertEntry (k : String) (v : α) : List (String × α) → List (String × α)
  | [] => [(k, v)]
  | e :: rest =>
    if k < e.1 then (k, v) :: e :: rest
    else if k = e.1 then (k, v) :: rest
    else e :: insertEntry k v rest

theorem mem_insertEntry {k : String} {v : α} {e : String × α} {l : List (String × α)}
    (h : e ∈ insertEntry k v l) : e = (k, v) ∨ e ∈ l := by
  induction l with
  | nil => simpa [insertEntry] using h
  | cons d l ih =>
    unfold insertEntry at h
    split at h
    · simpa using h
    · split at h
      · rcases List.mem_cons.1 h with h | h
        · exact .inl h
        · exact .inr (List.mem_cons_of_mem _ h)
      · rcases List.mem_cons.1 h with h | h
        · exact .inr (h ▸ List.mem_cons_self)
        · exact (ih h).imp_right (List.mem_cons_of_mem _)

theorem sorted_insertEntry {k : String} {v : α} {l : List (String × α)}
    (h : l.Pairwise fun a b => a.1 < b.1) :
    (insertEntry k v l).Pairwise fun a b => a.1 < b.1 := by
  induction l with
  | nil => simp [insertEntry]
  | cons d l ih =>
    obtain ⟨hd, hl⟩ := List.pairwise_cons.1 h
    unfold insertEntry
    split
    · rename_i hk
      refine List.pairwise_cons.2 ⟨fun e he => ?_, h⟩
      rcases List.mem_cons.1 he with rfl | he
      · exact hk
      · exact String.lt_trans hk (hd e he)
    · rename_i hk
      split
      · rename_i hkd
        exact List.pairwise_cons.2 ⟨fun e he => hkd ▸ hd e he, hl⟩
      · rename_i hkd
        refine List.pairwise_cons.2 ⟨fun e he => ?_, ih hl⟩
        rcases mem_insertEntry he with rfl | he
        · exact Std.lt_of_le_of_ne (String.not_lt.1 hk) (Ne.symm hkd)
        · exact hd e he

def empty : Keyed α := ⟨[], .nil⟩

def insert (m : Keyed α) (k : String) (v : α) : Keyed α :=
  ⟨insertEntry k v m.entries, sorted_insertEntry m.sorted⟩

def erase (m : Keyed α) (k : String) : Keyed α :=
  ⟨m.entries.filter (·.1 ≠ k), m.sorted.filter _⟩

def get? (m : Keyed α) (k : String) : Option α :=
  (m.entries.find? (·.1 == k)).map (·.2)

def contains (m : Keyed α) (k : String) : Bool :=
  (m.get? k).isSome

def keys (m : Keyed α) : List String :=
  m.entries.map (·.1)

/-- The map of a list of pairs; of equal keys the last one counts. -/
def ofList (l : List (String × α)) : Keyed α :=
  l.foldl (fun m e => m.insert e.1 e.2) empty

def map {β : Type v} (f : α → β) (m : Keyed α) : Keyed β :=
  ⟨m.entries.map fun e => (e.1, f e.2), List.pairwise_map.2 m.sorted⟩

def filter (p : String → α → Bool) (m : Keyed α) : Keyed α :=
  ⟨m.entries.filter fun e => p e.1 e.2, m.sorted.filter _⟩

instance : Inhabited (Keyed α) := ⟨empty⟩

/-! ## Look-ups -/

theorem find?_insertEntry (k : String) (v : α) (l : List (String × α)) (x : String)
    (h : l.Pairwise fun a b => a.1 < b.1) :
    (insertEntry k v l).find? (·.1 == x) =
      if k = x then some (k, v) else l.find? (·.1 == x) := by
  induction l with
  | nil => by_cases hx : k = x <;> simp [insertEntry, hx]
  | cons d l ih =>
    obtain ⟨hd, hl⟩ := List.pairwise_cons.1 h
    unfold insertEntry
    split
    · by_cases hx : k = x <;> simp [hx]
    · split
      · rename_i hkd
        by_cases hx : k = x
        · simp [hx]
        · simp [hx, ← hkd]
      · rename_i hkd
        by_cases hdx : d.1 = x
        · have : k ≠ x := fun hx => hkd (hx.trans hdx.symm)
          simp [hdx, this]
        · simp [hdx, ih hl]

@[simp] theorem get?_empty (x : String) : (empty : Keyed α).get? x = none := rfl

theorem get?_insert (m : Keyed α) (k : String) (v : α) (x : String) :
    (m.insert k v).get? x = if k = x then some v else m.get? x := by
  simp only [get?, insert, find?_insertEntry _ _ _ _ m.sorted]
  split <;> rfl

theorem get?_erase (m : Keyed α) (k x : String) :
    (m.erase k).get? x = if k = x then none else m.get? x := by
  simp only [get?, erase]
  induction m.entries with
  | nil => simp
  | cons e l ih =>
    by_cases hk : e.1 = k <;> by_cases hx : e.1 = x <;> grind

theorem get?_map {β : Type v} (f : α → β) (m : Keyed α) (k : String) :
    (m.map f).get? k = (m.get? k).map f := by
  simp only [get?, map, List.find?_map, Function.comp_def, Option.map_map]

/-! ## Extensionality -/

theorem get?_eq_some_iff {m : Keyed α} {k : String} {v : α} :
    m.get? k = some v ↔ (k, v) ∈ m.entries := by
  obtain ⟨l, h⟩ := m
  simp only [get?]
  induction l with
  | nil => simp
  | cons e l ih =>
    obtain ⟨he, hl⟩ := List.pairwise_cons.1 h
    specialize ih hl
    by_cases hk : e.1 = k
    · have : ∀ w, (k, w) ∉ l := fun w hw => String.lt_irrefl _ (hk ▸ he _ hw)
      simp only [List.find?_cons, hk, beq_self_eq_true, Option.map_some, Option.some.injEq,
        List.mem_cons, this, or_false]
      constructor
      · rintro rfl
        rw [← hk]
      · intro h
        rw [← h]
    · have hb : (e.1 == k) = false := by simpa using hk
      have : (k, v) ≠ e := fun h => hk (by rw [← h])
      simp [hb, ih, this]

theorem nodup_keys (m : Keyed α) : m.keys.Nodup :=
  List.pairwise_map.2 (m.sorted.imp String.ne_of_lt)

theorem nodup_entries (m : Keyed α) : m.entries.Nodup :=
  m.sorted.imp fun h heq => String.ne_of_lt h (congrArg Prod.fst heq)

theorem get?_filter (p : String → α → Bool) (m : Keyed α) (k : String) :
    (m.filter p).get? k = (m.get? k).filter (p k) := by
  ext v
  rw [get?_eq_some_iff, Option.filter_eq_some_iff, get?_eq_some_iff]
  simp only [filter, List.mem_filter]

theorem get?_foldl_insert {l : List (String × α)} {m : Keyed α} {k : String} {v : α}
    (h : (l.map (·.1)).Nodup) :
    (l.foldl (fun m e => m.insert e.1 e.2) m).get? k = some v ↔
      (k, v) ∈ l ∨ (k ∉ l.map (·.1) ∧ m.get? k = some v) := by
  induction l generalizing m with
  | nil => simp
  | cons e l ih =>
    obtain ⟨he, hl⟩ := List.nodup_cons.1 h
    rw [List.foldl_cons, ih hl, get?_insert]
    by_cases hk : e.1 = k
    · subst hk
      have : ∀ w, (e.1, w) ∉ l := fun w hw => he (List.mem_map.2 ⟨_, hw, rfl⟩)
      simp [this, he, Prod.ext_iff, eq_comm]
    · have : (k, v) ≠ e := fun h => hk (by rw [← h])
      simp [hk, this, Ne.symm hk]

/-- The map of pairs with distinct keys has just these pairs. -/
theorem get?_ofList {l : List (String × α)} {k : String} {v : α} (h : (l.map (·.1)).Nodup) :
    (ofList l).get? k = some v ↔ (k, v) ∈ l := by
  simp [ofList, get?_foldl_insert h]

/-- Maps with the same look-ups are equal. -/
theorem ext_get? {m n : Keyed α} (h : ∀ k, m.get? k = n.get? k) : m = n := by
  have hmem : ∀ e, e ∈ m.entries ↔ e ∈ n.entries := fun e => by
    rw [← get?_eq_some_iff, ← get?_eq_some_iff, h]
  have hperm : m.entries.Perm n.entries :=
    (List.perm_ext_iff_of_nodup m.nodup_entries n.nodup_entries).2 hmem
  exact Keyed.ext (hperm.eq_of_pairwise
    (fun _ _ _ _ hab hba => absurd (String.lt_trans hab hba) (String.lt_irrefl _))
    m.sorted n.sorted)

/-- A map is the map of its entries. -/
theorem ofList_entries (m : Keyed α) : ofList m.entries = m := by
  refine ext_get? fun k => Option.ext fun v => ?_
  rw [get?_ofList m.nodup_keys, get?_eq_some_iff]

theorem entries_foldl_insert (l : List (String × α)) (m : Keyed α) :
    (l.foldl (fun m e => m.insert e.1 e.2) m).entries =
      l.foldl (fun es e => insertEntry e.1 e.2 es) m.entries := by
  induction l generalizing m with
  | nil => rfl
  | cons e l ih => exact ih (m.insert e.1 e.2)

theorem mem_foldl_insertEntry {e : String × α} {l es : List (String × α)}
    (h : e ∈ l.foldl (fun es e => insertEntry e.1 e.2 es) es) : e ∈ l ∨ e ∈ es := by
  induction l generalizing es with
  | nil => exact .inr h
  | cons d l ih =>
    rcases ih h with h | h
    · exact .inl (List.mem_cons_of_mem _ h)
    · rcases mem_insertEntry h with rfl | h
      · exact .inl List.mem_cons_self
      · exact .inr h

/-- A map of pairs has no other entries than these. -/
theorem mem_of_mem_ofList {e : String × α} {l : List (String × α)}
    (h : e ∈ (ofList l).entries) : e ∈ l := by
  rw [ofList, entries_foldl_insert] at h
  exact (mem_foldl_insertEntry h).resolve_right List.not_mem_nil

end Keyed

end SearchGateway
