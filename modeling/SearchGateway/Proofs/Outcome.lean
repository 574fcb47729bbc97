import Mathlib.Data.List.Forall2

/-!
# Computations that may fail

The steps of a computation in `Except`, as simplification rules, and what a traversal yields.
-/

namespace SearchGateway

variable {α : Type u} {β ε : Type v}

@[simp] theorem pure_eq_ok (b : β) : (pure b : Except ε β) = .ok b := rfl

@[simp] theorem throw_eq_error (e : ε) : (throw e : Except ε β) = .error e := rfl

@[simp] theorem ok_bind {β' : Type v} (b : β) (f : β → Except ε β') :
    (Except.ok b >>= f) = f b := rfl

@[simp] theorem error_bind {β' : Type v} (e : ε) (f : β → Except ε β') :
    ((Except.error e : Except ε β) >>= f) = .error e := rfl

theorem bind_eq_ok_iff {β' : Type v} {x : Except ε β} {f : β → Except ε β'} {c : β'} :
    (x >>= f) = .ok c ↔ ∃ b, x = .ok b ∧ f b = .ok c := by
  cases x <;> simp

theorem bind_eq_error_iff {β' : Type v} {x : Except ε β} {f : β → Except ε β'} {e : ε} :
    (x >>= f) = .error e ↔ x = .error e ∨ ∃ b, x = .ok b ∧ f b = .error e := by
  cases x <;> simp

theorem map_eq_ok_iff {β' : Type v} {x : Except ε β} {f : β → β'} {c : β'} :
    x.map f = .ok c ↔ ∃ b, x = .ok b ∧ f b = c := by
  cases x <;> simp [Except.map]

theorem mapError_eq_ok_iff {ε' : Type v} {x : Except ε β} {f : ε → ε'} {b : β} :
    x.mapError f = .ok b ↔ x = .ok b := by
  cases x <;> simp [Except.mapError]

theorem mapError_eq_error_iff {ε' : Type v} {x : Except ε β} {f : ε → ε'} {e' : ε'} :
    x.mapError f = .error e' ↔ ∃ e, x = .error e ∧ f e = e' := by
  cases x <;> simp [Except.mapError]

theorem toOption_eq_some_iff {x : Except ε β} {b : β} : x.toOption = some b ↔ x = .ok b := by
  cases x <;> simp [Except.toOption]

theorem mapM_eq_ok_iff {f : α → Except ε β} {l : List α} {r : List β} :
    l.mapM f = .ok r ↔ List.Forall₂ (fun a b => f a = .ok b) l r := by
  induction l generalizing r with
  | nil => simp [eq_comm]
  | cons a l ih =>
      simp only [List.mapM_cons, bind_eq_ok_iff, ih, List.forall₂_cons_left_iff, pure_eq_ok,
        Except.ok.injEq]
      constructor
      · rintro ⟨b, hb, bs, hbs, rfl⟩
        exact ⟨b, bs, hb, hbs, rfl⟩
      · rintro ⟨b, bs, hb, hbs, rfl⟩
        exact ⟨b, hb, bs, hbs, rfl⟩

theorem mapM_eq_error_iff {f : α → Except ε β} {l : List α} {e : ε} :
    l.mapM f = .error e ↔ ∃ front a rest, l = front ++ a :: rest ∧
      (∀ b ∈ front, ∃ c, f b = .ok c) ∧ f a = .error e := by
  induction l with
  | nil => simp
  | cons a l ih =>
      rw [List.mapM_cons, bind_eq_error_iff]
      constructor
      · rintro (ha | ⟨c, ha, hl⟩)
        · exact ⟨[], a, l, rfl, by simp, ha⟩
        · have hrest : l.mapM f = .error e := by simpa [bind_eq_error_iff] using hl
          obtain ⟨front, b, rest, rfl, hfront, hb⟩ := ih.1 hrest
          exact ⟨a :: front, b, rest, rfl, List.forall_mem_cons.2 ⟨⟨c, ha⟩, hfront⟩, hb⟩
      · rintro ⟨front, b, rest, hl, hfront, hb⟩
        cases front with
        | nil =>
            obtain ⟨rfl, rfl⟩ := List.cons.inj hl
            exact .inl hb
        | cons first front =>
            obtain ⟨rfl, rfl⟩ := List.cons.inj hl
            obtain ⟨⟨c, ha⟩, hfront⟩ := List.forall_mem_cons.1 hfront
            refine .inr ⟨c, ha, ?_⟩
            rw [ih.2 ⟨front, b, rest, rfl, hfront, hb⟩]
            rfl

/-! ## Folds -/

/-- What every step of two folds keeps is kept by the folds. -/
theorem rel_of_foldlM {γ : Type w} {R : β → γ → Prop} {step : β → α → Except ε β}
    {next : γ → α → γ}
    (hstep : ∀ {b c a b'}, R b c → step b a = .ok b' → R b' (next c a))
    {l : List α} {b b' : β} {c : γ} (hrel : R b c) (h : l.foldlM step b = .ok b') :
    R b' (l.foldl next c) := by
  induction l generalizing b c with
  | nil =>
      cases h
      exact hrel
  | cons a l ih =>
      rw [List.foldlM_cons, bind_eq_ok_iff] at h
      obtain ⟨b'', hb'', h⟩ := h
      exact ih (hstep hrel hb'') h

/-- Steps that do not change what is accepted are carried out one after the other if each of them is
accepted at first. -/
theorem foldlM_eq_ok_iff {P : β → α → Prop} {step : β → α → Except ε β} {next : β → α → β}
    (hstep : ∀ b a b', step b a = .ok b' ↔ P b a ∧ b' = next b a)
    (hkeep : ∀ b a c, P (next b a) c ↔ P b c) {l : List α} {b b' : β} :
    l.foldlM step b = .ok b' ↔ (∀ a ∈ l, P b a) ∧ b' = l.foldl next b := by
  induction l generalizing b with
  | nil => simp [eq_comm]
  | cons a l ih =>
      rw [List.foldlM_cons, bind_eq_ok_iff, List.forall_mem_cons]
      simp only [hstep, ih]
      constructor
      · rintro ⟨_, ⟨ha, rfl⟩, hl, rfl⟩
        exact ⟨⟨ha, fun c hc => (hkeep b a c).1 (hl c hc)⟩, rfl⟩
      · rintro ⟨⟨ha, hl⟩, rfl⟩
        exact ⟨_, ⟨ha, rfl⟩, fun c hc => (hkeep b a c).2 (hl c hc), rfl⟩

end SearchGateway
