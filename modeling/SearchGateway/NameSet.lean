/-!
# Finite sets of names

Members are kept in strictly increasing order, so two sets with the same members are equal
(`NameSet.ext_mem`).
-/

namespace SearchGateway

/-- A finite set of names; the order of `toList` is the order of texts. -/
structure NameSet where
  toList : List String
  sorted : toList.Pairwise (· < ·)
deriving DecidableEq

namespace NameSet

/-- The list with `a` at its place in the order. -/
def insertName (a : String) : List String → List String
  | [] => [a]
  | b :: rest =>
    if a < b then a :: b :: rest
    else if a = b then b :: rest
    else b :: insertName a rest

theorem mem_insertName {a x : String} {l : List String} :
    x ∈ insertName a l ↔ x = a ∨ x ∈ l := by
  induction l with
  | nil => simp [insertName]
  | cons b l ih =>
    unfold insertName
    split
    · simp
    · split
      · rename_i hab
        subst hab
        simp
      · simp only [List.mem_cons, ih]
        constructor
        · rintro (h | h | h)
          · exact .inr (.inl h)
          · exact .inl h
          · exact .inr (.inr h)
        · rintro (h | h | h)
          · exact .inr (.inl h)
          · exact .inl h
          · exact .inr (.inr h)

theorem sorted_insertName {a : String} {l : List String} (h : l.Pairwise (· < ·)) :
    (insertName a l).Pairwise (· < ·) := by
  induction l with
  | nil => simp [insertName]
  | cons b l ih =>
    obtain ⟨hb, hl⟩ := List.pairwise_cons.1 h
    unfold insertName
    split
    · rename_i hab
      refine List.pairwise_cons.2 ⟨fun x hx => ?_, h⟩
      rcases List.mem_cons.1 hx with rfl | hx
      · exact hab
      · exact String.lt_trans hab (hb x hx)
    · rename_i hab
      split
      · exact h
      · rename_i hne
        refine List.pairwise_cons.2 ⟨fun x hx => ?_, ih hl⟩
        rcases mem_insertName.1 hx with rfl | hx
        · exact Std.lt_of_le_of_ne (String.not_lt.1 hab) (Ne.symm hne)
        · exact hb x hx

def empty : NameSet := ⟨[], .nil⟩

instance : Inhabited NameSet := ⟨empty⟩

instance : Membership String NameSet := ⟨fun s a => a ∈ s.toList⟩

instance (a : String) (s : NameSet) : Decidable (a ∈ s) :=
  inferInstanceAs (Decidable (a ∈ s.toList))

def insert (s : NameSet) (a : String) : NameSet :=
  ⟨insertName a s.toList, sorted_insertName s.sorted⟩

def erase (s : NameSet) (a : String) : NameSet :=
  ⟨s.toList.filter (· ≠ a), s.sorted.filter _⟩

def isEmpty (s : NameSet) : Bool :=
  s.toList.isEmpty

theorem mem_def {a : String} {s : NameSet} : a ∈ s ↔ a ∈ s.toList := Iff.rfl

theorem nodup (s : NameSet) : s.toList.Nodup := s.sorted.imp String.ne_of_lt

@[simp] theorem not_mem_empty (a : String) : a ∉ empty := List.not_mem_nil

@[simp] theorem mem_insert {a x : String} {s : NameSet} : x ∈ s.insert a ↔ x = a ∨ x ∈ s :=
  mem_insertName

@[simp] theorem mem_erase {a x : String} {s : NameSet} : x ∈ s.erase a ↔ x ≠ a ∧ x ∈ s := by
  simp [erase, mem_def, and_comm]

theorem isEmpty_eq_false_iff {s : NameSet} : s.isEmpty = false ↔ ∃ a, a ∈ s := by
  simp only [isEmpty, List.isEmpty_eq_false_iff_exists_mem, mem_def]

/-- Sets with the same members are equal. -/
theorem ext_mem {s t : NameSet} (h : ∀ a, a ∈ s ↔ a ∈ t) : s = t := by
  have hperm : s.toList.Perm t.toList := (List.perm_ext_iff_of_nodup s.nodup t.nodup).2 h
  have hlist : s.toList = t.toList := hperm.eq_of_pairwise
    (fun _ _ _ _ hab hba => absurd (String.lt_trans hab hba) (String.lt_irrefl _)) s.sorted t.sorted
  cases s
  cases t
  cases hlist
  rfl

/-! ## Adding and removing a name -/

variable {a : String} {s : NameSet}

theorem insert_eq_self (h : a ∈ s) : s.insert a = s :=
  ext_mem fun x => by
    rw [mem_insert, or_iff_right_iff_imp]
    rintro rfl
    exact h

theorem erase_eq_self (h : a ∉ s) : s.erase a = s :=
  ext_mem fun x => by
    rw [mem_erase, and_iff_right_iff_imp]
    rintro hx rfl
    exact h hx

@[simp] theorem erase_insert (s : NameSet) (a : String) : (s.insert a).erase a = s.erase a :=
  ext_mem fun x => by
    rw [mem_erase, mem_insert, mem_erase]
    exact ⟨fun h => ⟨h.1, h.2.resolve_left h.1⟩, fun h => ⟨h.1, .inr h.2⟩⟩

@[simp] theorem erase_erase (s : NameSet) (a : String) : (s.erase a).erase a = s.erase a :=
  erase_eq_self fun h => (mem_erase.1 h).1 rfl

theorem insert_erase (h : a ∈ s) : (s.erase a).insert a = s :=
  ext_mem fun x => by
    rw [mem_insert, mem_erase]
    constructor
    · rintro (rfl | hx)
      · exact h
      · exact hx.2
    · intro hx
      by_cases hxa : x = a
      · exact .inl hxa
      · exact .inr ⟨hxa, hx⟩

theorem isEmpty_iff : s.isEmpty = true ↔ s = empty := by
  constructor
  · intro h
    exact ext_mem fun x => by simp [mem_def, List.isEmpty_iff.1 h, empty]
  · rintro rfl
    rfl

end NameSet

end SearchGateway
