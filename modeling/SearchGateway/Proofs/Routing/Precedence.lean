import SearchGateway.Proofs.Routing.Fitting
import Mathlib.Logic.Basic

/-!
# Which of several patterns goes first

The pieces of a pattern have a breadth: a literal takes one text, a parameter any piece, a catch-all
the whole rest. A pattern precedes another one if it is narrower at the first piece where their
breadths differ. Some pattern is selected if one fits, and none that fits precedes it
(`select?_least`). Of two patterns that fit one path, one precedes the other unless they differ in
the names of their parameters only (`Fits.precedes_or_outline_eq`).
-/

namespace SearchGateway.Routing

/-- How much a piece of a pattern can take. -/
def Segment.breadth : Segment → Nat
  | .literal _ => 0
  | .parameter _ => 1
  | .rest _ => 2

/-- A pattern goes before another one: it is narrower at the first piece where they differ. -/
def Pattern.Precedes (pattern other : Pattern) : Prop :=
  List.Lex (· < ·) (pattern.map Segment.breadth) (other.map Segment.breadth)

instance (pattern other : Pattern) : Decidable (pattern.Precedes other) :=
  inferInstanceAs (Decidable (List.Lex (· < ·) _ _))

/-- A piece of a pattern without its name. -/
def Segment.outline : Segment → Segment
  | .literal text => .literal text
  | .parameter _ => .parameter ""
  | .rest _ => .rest ""

/-- A pattern without its names. -/
def Pattern.outline (pattern : Pattern) : Pattern :=
  pattern.map Segment.outline

variable {α : Type u} {l : List (Pattern × α)} {pattern other : Pattern} {piece : String}
  {pieces : List String} {a : α}

/-! ## Deciding whether a pattern fits -/

/-- Whether a pattern fits the pieces of a path. -/
def Pattern.fits : Pattern → List String → Bool
  | [], [] => true
  | .literal text :: pattern, piece :: pieces => text == piece && Pattern.fits pattern pieces
  | .parameter _ :: pattern, piece :: pieces =>
    !(piece == "" && pieces == []) && Pattern.fits pattern pieces
  | [.rest _], piece :: pieces => !(piece == "" && pieces == [])
  | _, _ => false

theorem fits_iff : pattern.fits pieces = true ↔ Fits pattern pieces := by
  constructor
  · intro h
    fun_induction Pattern.fits pattern pieces with
    | case1 => exact .nil
    | case2 text pattern piece pieces ih =>
        simp only [Bool.and_eq_true, beq_iff_eq] at h
        exact h.1 ▸ (ih h.2).literal
    | case3 name pattern piece pieces ih =>
        simp only [Bool.and_eq_true, Bool.not_eq_true', Bool.and_eq_false_iff, beq_eq_false_iff_ne]
          at h
        exact .parameter (not_and_or.2 h.1) (ih h.2)
    | case4 name piece pieces =>
        simp only [Bool.not_eq_true', Bool.and_eq_false_iff, beq_eq_false_iff_ne] at h
        exact .rest (not_and_or.2 h)
    | case5 => cases h
  · intro h
    induction h with
    | nil => rfl
    | literal _ ih => simpa [Pattern.fits] using ih
    | parameter hlast _ ih => simpa [Pattern.fits, ih, ← not_and_or] using hlast
    | rest hlast => simpa [Pattern.fits, ← not_and_or] using hlast

instance : Decidable (Fits pattern pieces) :=
  decidable_of_iff _ fits_iff

/-! ## Selection finds what fits -/

theorem isSome_finished? (h : ([], a) ∈ l) : (finished? l).isSome :=
  List.findSome?_isSome_iff.2 ⟨_, h, rfl⟩

theorem isSome_catchAll? {name : String} (h : ([.rest name], a) ∈ l) : (catchAll? l).isSome :=
  List.findSome?_isSome_iff.2 ⟨_, h, rfl⟩

theorem isSome_select? (hmem : (pattern, a) ∈ l) (hfits : Fits pattern pieces) :
    (select? l pieces).isSome := by
  induction hfits generalizing l with
  | nil => exact isSome_finished? hmem
  | literal hfits ih =>
      simp only [select?, List.isEmpty_eq_false_iff.2 (List.ne_nil_of_mem hmem),
        Bool.false_eq_true, if_false, Option.isSome_or, ih (mem_afterLiteral.2 hmem),
        Bool.true_or]
  | parameter hlast hfits ih =>
      simp only [select?, List.isEmpty_eq_false_iff.2 (List.ne_nil_of_mem hmem),
        Bool.false_eq_true, if_false, hlast, Option.isSome_or,
        ih (mem_afterParameter.2 ⟨_, hmem⟩), Bool.true_or, Bool.or_true]
  | rest hlast =>
      simp only [select?, List.isEmpty_eq_false_iff.2 (List.ne_nil_of_mem hmem),
        Bool.false_eq_true, if_false, hlast, Option.isSome_or, isSome_catchAll? hmem, Bool.or_true]

/-! ## Precedence, piece by piece -/

@[simp] theorem not_precedes_nil : ¬ pattern.Precedes [] := List.not_lex_nil

@[simp] theorem cons_precedes_cons {s t : Segment} :
    Pattern.Precedes (s :: pattern) (t :: other) ↔
      s.breadth < t.breadth ∨ s.breadth = t.breadth ∧ pattern.Precedes other :=
  List.cons_lex_cons_iff

/-! ## Selection finds the pattern that goes first -/

/-- What is selected belongs to a pattern that fits, and no pattern that fits precedes it. -/
theorem select?_least (h : select? l pieces = some a) :
    ∃ pattern, (pattern, a) ∈ l ∧ Fits pattern pieces ∧
      ∀ other b, (other, b) ∈ l → Fits other pieces → ¬ other.Precedes pattern := by
  induction pieces generalizing l with
  | nil => exact ⟨[], mem_of_finished? h, .nil, fun _ _ _ _ => not_precedes_nil⟩
  | cons piece pieces ih =>
      simp only [select?] at h
      split at h
      · cases h
      · rcases Option.or_eq_some_iff.1 h with h | ⟨hliteral, h⟩
        · obtain ⟨pattern, hmem, hfits, hleast⟩ := ih h
          refine ⟨_, mem_afterLiteral.1 hmem, hfits.literal, fun other b hother hfits' => ?_⟩
          cases hfits' with
          | literal hfits' =>
              simpa [Segment.breadth] using hleast _ b (mem_afterLiteral.2 hother) hfits'
          | parameter | rest => simp [Segment.breadth]
        · -- no pattern that begins with the literal fits, or one would have been selected
          have hnone : ∀ rest b, (.literal piece :: rest, b) ∈ l → ¬ Fits rest pieces := by
            intro rest b hrest hfits
            have hsome := isSome_select? (mem_afterLiteral.2 hrest) hfits
            rw [hliteral] at hsome
            cases hsome
          split at h
          · cases h
          · rename_i hlast
            rcases Option.or_eq_some_iff.1 h with h | ⟨hparameter, h⟩
            · obtain ⟨pattern, hmem, hfits, hleast⟩ := ih h
              obtain ⟨name, hmem⟩ := mem_afterParameter.1 hmem
              refine ⟨_, hmem, .parameter hlast hfits, fun other b hother hfits' => ?_⟩
              cases hfits' with
              | literal hfits' => exact absurd hfits' (hnone _ b hother)
              | parameter _ hfits' =>
                  simpa [Segment.breadth] using
                    hleast _ b (mem_afterParameter.2 ⟨_, hother⟩) hfits'
              | rest => simp [Segment.breadth]
            · obtain ⟨name, hmem⟩ := mem_of_catchAll? h
              refine ⟨_, hmem, .rest hlast, fun other b hother hfits' => ?_⟩
              cases hfits' with
              | literal hfits' => exact absurd hfits' (hnone _ b hother)
              | parameter _ hfits' =>
                  have hsome := isSome_select? (mem_afterParameter.2 ⟨_, hother⟩) hfits'
                  rw [hparameter] at hsome
                  cases hsome
              | rest => simp [Segment.breadth]

/-- Of two patterns that fit one path, one precedes the other unless they are alike but for their
names. -/
theorem Fits.precedes_or_outline_eq (hpattern : Fits pattern pieces) (hother : Fits other pieces) :
    pattern.Precedes other ∨ other.Precedes pattern ∨ pattern.outline = other.outline := by
  induction hpattern generalizing other with
  | nil =>
      cases hother
      exact .inr (.inr rfl)
  | literal _ ih =>
      cases hother with
      | literal hother => simpa [Segment.breadth, Pattern.outline] using ih hother
      | parameter | rest => simp [Segment.breadth]
  | parameter _ _ ih =>
      cases hother with
      | parameter _ hother =>
          simpa [Segment.breadth, Segment.outline, Pattern.outline] using ih hother
      | literal | rest => simp [Segment.breadth]
  | rest _ =>
      cases hother with
      | rest => exact .inr (.inr rfl)
      | literal | parameter => simp [Segment.breadth]

end SearchGateway.Routing
