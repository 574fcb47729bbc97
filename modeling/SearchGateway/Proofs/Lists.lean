import Mathlib.Data.List.Forall2
import Mathlib.Data.List.Nodup

/-!
# Lists without repetitions, and lists that correspond item by item
-/

namespace SearchGateway

theorem nodup_eraseDups {α : Type u} [BEq α] [LawfulBEq α] (names : List α) :
    names.eraseDups.Nodup := by
  match names with
  | [] => simp
  | first :: others =>
      rw [List.eraseDups_cons, List.nodup_cons]
      exact ⟨by simp [List.mem_eraseDups], nodup_eraseDups _⟩
termination_by names.length
decreasing_by
  have := List.length_filter_le (fun other => !other == first) others
  simp only [List.length_cons]
  omega

theorem eraseDups_eq_self {α : Type u} [BEq α] [LawfulBEq α] {l : List α} (h : l.Nodup) :
    l.eraseDups = l := by
  induction l with
  | nil => rfl
  | cons a l ih =>
      obtain ⟨ha, hl⟩ := List.nodup_cons.1 h
      have hfilter : l.filter (!· == a) = l := by
        rw [List.filter_eq_self]
        intro b hb
        simpa using fun hba : b = a => ha (hba ▸ hb)
      rw [List.eraseDups_cons, hfilter, ih hl]

theorem eraseDups_filter {α : Type u} [BEq α] [LawfulBEq α] (p : α → Bool) (l : List α) :
    (l.filter p).eraseDups = l.eraseDups.filter p := by
  match l with
  | [] => simp
  | a :: l =>
      have ih : ((l.filter (!· == a)).filter p).eraseDups =
          (l.filter (!· == a)).eraseDups.filter p :=
        eraseDups_filter p (l.filter (!· == a))
      rw [List.eraseDups_cons, List.filter_cons, List.filter_cons]
      split
      · rw [List.eraseDups_cons, ← ih, List.filter_filter, List.filter_filter]
        simp only [Bool.and_comm]
      · rename_i ha
        -- the copies of `a` are dropped by `p` as well
        rw [← ih, List.filter_filter]
        congr 1
        refine List.filter_congr fun b _ => ?_
        by_cases hba : b = a <;> simp_all
termination_by l.length
decreasing_by
  have := List.length_filter_le (fun other => !other == a) l
  simp only [List.length_cons]
  omega

/-- Of two lists one after the other, the second one adds what the first one does not have. -/
theorem eraseDups_append {α : Type u} [DecidableEq α] (l r : List α) :
    (l ++ r).eraseDups = l.eraseDups ++ r.eraseDups.filter (· ∉ l.eraseDups) := by
  rw [List.eraseDups_append, List.removeAll, eraseDups_filter]
  congr 1
  refine List.filter_congr fun a _ => ?_
  simp [List.mem_eraseDups]

theorem eraseDups_flatMap {α : Type u} {β : Type v} [DecidableEq β] (f : α → List β) (l : List α) :
    (l.flatMap fun a => (f a).eraseDups).eraseDups = (l.flatMap f).eraseDups := by
  induction l with
  | nil => rfl
  | cons a l ih =>
      rw [List.flatMap_cons, List.flatMap_cons, eraseDups_append, eraseDups_append, ih,
        eraseDups_eq_self (nodup_eraseDups _)]

theorem flatMap_filter_of_nil {α : Type u} {β : Type v} {p : α → Bool} {f : α → List β}
    {l : List α} (h : ∀ a ∈ l, p a = false → f a = []) : (l.filter p).flatMap f = l.flatMap f := by
  induction l with
  | nil => rfl
  | cons a l ih =>
      obtain ⟨ha, hl⟩ := List.forall_mem_cons.1 h
      cases hp : p a with
      | true => simp [hp, ih hl]
      | false => simp [hp, ha hp, ih hl]

theorem find?_key_eq_some_iff {α : Type u} {l : List (String × α)} (h : (l.map (·.1)).Nodup)
    {k : String} {e : String × α} : l.find? (·.1 == k) = some e ↔ e ∈ l ∧ e.1 = k := by
  constructor
  · intro hfind
    exact ⟨List.mem_of_find?_eq_some hfind, by simpa using List.find?_some hfind⟩
  · rintro ⟨hmem, hkey⟩
    cases hfind : l.find? (·.1 == k) with
    | none => simpa [hkey] using List.find?_eq_none.1 hfind e hmem
    | some other =>
        have hother : other.1 = e.1 := by
          rw [hkey]
          simpa using List.find?_some hfind
        rw [List.inj_on_of_nodup_map h (List.mem_of_find?_eq_some hfind) hmem hother]

/-- The place of the first item that satisfies `p`. -/
theorem findIdx?_eq_some_iff_append {α : Type u} {p : α → Bool} {l : List α} {i : Nat} :
    l.findIdx? p = some i ↔ ∃ front a rest, l = front ++ a :: rest ∧ front.length = i ∧
      (∀ b ∈ front, p b = false) ∧ p a := by
  rw [List.findIdx?_eq_some_iff_getElem]
  constructor
  · rintro ⟨hi, ha, hfront⟩
    refine ⟨l.take i, l[i], l.drop (i + 1), by simp, by simp; omega, fun b hb => ?_, ha⟩
    obtain ⟨j, hj, rfl⟩ := List.mem_take_iff_getElem.1 hb
    simpa using hfront j (by omega)
  · rintro ⟨front, a, rest, rfl, rfl, hfront, ha⟩
    refine ⟨by simp, by simpa using ha, fun j hj => ?_⟩
    rw [List.getElem_append_left hj]
    simp [hfront _ (List.getElem_mem hj)]

theorem length_eq_one_of_nodup {α : Type u} {l : List α} {a : α} (hl : l.Nodup) (hne : l ≠ [])
    (h : ∀ b ∈ l, b = a) : l.length = 1 := by
  match l with
  | [] => exact absurd rfl hne
  | [_] => rfl
  | b :: c :: l =>
      obtain ⟨hb, -⟩ := List.nodup_cons.1 hl
      have hbc : b = c := (h b (by simp)).trans (h c (by simp)).symm
      exact absurd (hbc ▸ List.mem_cons_self) hb

/-- What stands before the first of several marks. -/
theorem append_cons_inj {α : Type u} {mark : α} {l l' r r' : List α} (hl : mark ∉ l)
    (hl' : mark ∉ l') : l ++ mark :: r = l' ++ mark :: r' ↔ l = l' ∧ r = r' := by
  induction l generalizing l' with
  | nil =>
      cases l' with
      | nil => simp
      | cons b l' =>
          have hb : mark ≠ b := fun h => hl' (by simp [h])
          simp [hb]
  | cons a l ih =>
      obtain ⟨ha, hl⟩ := not_or.1 (List.mem_cons.not.1 hl)
      cases l' with
      | nil => simp [Ne.symm ha]
      | cons b l' =>
          obtain ⟨-, hl'⟩ := not_or.1 (List.mem_cons.not.1 hl')
          simp [ih hl hl', and_assoc]

theorem append_cons_inj_last {α : Type u} {mark : α} {l l' r r' : List α} (hr : mark ∉ r)
    (hr' : mark ∉ r') : l ++ mark :: r = l' ++ mark :: r' ↔ l = l' ∧ r = r' := by
  rw [← List.reverse_inj]
  simp only [List.reverse_append, List.reverse_cons, List.append_assoc, List.singleton_append]
  rw [append_cons_inj (by simpa using hr) (by simpa using hr'), List.reverse_inj, List.reverse_inj,
    and_comm]

variable {α : Type u} {β : Type v} {R : α → β → Prop} {l : List α} {r : List β}

theorem exists_right_of_forall₂ (h : List.Forall₂ R l r) : ∀ a ∈ l, ∃ b ∈ r, R a b := by
  induction h with
  | nil => simp
  | cons hab _ ih =>
      rintro x (_ | ⟨_, hx⟩)
      · exact ⟨_, List.mem_cons_self, hab⟩
      · obtain ⟨y, hy, hxy⟩ := ih x hx
        exact ⟨y, List.mem_cons_of_mem _ hy, hxy⟩

theorem exists_left_of_forall₂ (h : List.Forall₂ R l r) : ∀ b ∈ r, ∃ a ∈ l, R a b :=
  exists_right_of_forall₂ h.flip

theorem flatMap_of_forall₂ {γ : Type w} {f : α → List γ} {g : β → List γ}
    (h : List.Forall₂ R l r) (hfg : ∀ a b, R a b → f a = g b) : l.flatMap f = r.flatMap g := by
  induction h with
  | nil => rfl
  | cons hab _ ih => rw [List.flatMap_cons, List.flatMap_cons, hfg _ _ hab, ih]

theorem mapM_eq_some_iff {f : α → Option β} :
    l.mapM f = some r ↔ List.Forall₂ (fun a b => f a = some b) l r := by
  induction l generalizing r with
  | nil => simp [eq_comm]
  | cons a l ih =>
      simp only [List.mapM_cons, Option.bind_eq_bind, Option.bind_eq_some_iff, ih,
        List.forall₂_cons_left_iff, Option.pure_def, Option.some.injEq]
      constructor
      · rintro ⟨b, hb, bs, hbs, rfl⟩
        exact ⟨b, bs, hb, hbs, rfl⟩
      · rintro ⟨b, bs, hb, hbs, rfl⟩
        exact ⟨b, hb, bs, hbs, rfl⟩

theorem isSome_mapM_iff {f : α → Option β} : (l.mapM f).isSome ↔ ∀ a ∈ l, (f a).isSome := by
  induction l with
  | nil => simp
  | cons a l ih =>
      simp only [List.mapM_cons, List.mem_cons, forall_eq_or_imp, ← ih]
      cases f a <;> cases l.mapM f <;> simp

end SearchGateway
