import Mathlib.Data.List.TakeWhile
import SearchGateway.Text.Split

/-!
# Pieces and beginnings of texts

The pieces of a text are the stretches without a separator that no longer ones contain
(`mem_split_iff`).
-/

namespace SearchGateway.Text

section Pieces

variable {α : Type u} {p : α → Bool} {s before after piece : List α} {sep : α}

theorem split_of_forall_not (h : ∀ a ∈ s, p a = false) : split p s = [s] := by
  induction s with
  | nil => rfl
  | cons a s ih =>
      obtain ⟨ha, hs⟩ := List.forall_mem_cons.1 h
      simp [split, ha, ih hs]

theorem split_append_cons (hsep : p sep) :
    split p (before ++ sep :: after) = split p before ++ split p after := by
  induction before with
  | nil => simp [split, hsep]
  | cons a before ih =>
      simp only [List.cons_append, split, ih]
      split
      · rfl
      · obtain ⟨first, rest, hfirst⟩ := List.exists_cons_of_ne_nil (split_ne_nil p before)
        simp [hfirst]

/-- Where two texts meet, the last piece of the one and the first piece of the other are one. -/
theorem split_append {front back : List (List α)} {first last : List α}
    (hbefore : split p before = front ++ [last]) (hafter : split p after = first :: back) :
    split p (before ++ after) = front ++ (last ++ first) :: back := by
  induction before generalizing front last with
  | nil =>
      cases front with
      | nil =>
          cases hbefore
          exact hafter
      | cons piece front => simp [split] at hbefore
  | cons a before ih =>
      obtain ⟨front', last', hsplit⟩ :=
        (List.eq_nil_or_concat (split p before)).resolve_left (split_ne_nil p before)
      rw [split, hsplit, List.concat_eq_append] at hbefore
      rw [List.cons_append, split, ih (hsplit.trans List.concat_eq_append)]
      split at hbefore
      · rename_i ha
        obtain ⟨rfl, hlast⟩ :=
          List.append_inj' (show ([] :: front') ++ [last'] = front ++ [last] from hbefore) rfl
        cases hlast
        rw [if_pos ha, List.cons_append]
      · rename_i ha
        rw [if_neg ha]
        cases front' with
        | nil =>
            obtain ⟨rfl, hlast⟩ :=
              List.append_inj' (show [] ++ [a :: last'] = front ++ [last] from hbefore) rfl
            cases hlast
            rfl
        | cons piece front' =>
            obtain ⟨rfl, hlast⟩ := List.append_inj'
              (show ((a :: piece) :: front') ++ [last'] = front ++ [last] from hbefore) rfl
            cases hlast
            rfl

theorem split_map {β : Type v} (f : β → α) (s : List β) :
    split p (s.map f) = (split (p ∘ f) s).map (List.map f) := by
  induction s with
  | nil => rfl
  | cons a s ih =>
      rw [List.map_cons, split, split, ih, Function.comp_apply]
      obtain ⟨first, rest, hfirst⟩ := List.exists_cons_of_ne_nil (split_ne_nil (p ∘ f) s)
      rw [hfirst]
      split <;> rfl

theorem length_split : (split p s).length = s.countP p + 1 := by
  induction s with
  | nil => rfl
  | cons a s ih =>
      rw [split, List.countP_cons]
      split
      · rw [List.length_cons, ih]
      · obtain ⟨first, rest, hfirst⟩ := List.exists_cons_of_ne_nil (split_ne_nil p s)
        rw [hfirst] at ih ⊢
        exact ih

/-- A stretch that has a separator or an end on each side. -/
def IsPiece (p : α → Bool) (s piece : List α) : Prop :=
  (∀ a ∈ piece, p a = false) ∧ ∃ before after, s = before ++ piece ++ after ∧
    (∀ a ∈ before.getLast?, p a) ∧ ∀ a ∈ after.head?, p a

theorem IsPiece.append_right (h : IsPiece p s piece) (hsep : p sep) :
    IsPiece p (s ++ sep :: after) piece := by
  obtain ⟨hpiece, before, rest, rfl, hbefore, hrest⟩ := h
  refine ⟨hpiece, before, rest ++ sep :: after, by simp, hbefore, ?_⟩
  cases rest with
  | nil => simpa using hsep
  | cons a rest => simpa using hrest

theorem IsPiece.append_left (h : IsPiece p s piece) (hsep : p sep) :
    IsPiece p (before ++ sep :: s) piece := by
  obtain ⟨hpiece, front, rest, rfl, hfront, hrest⟩ := h
  refine ⟨hpiece, before ++ sep :: front, rest, by simp, ?_, hrest⟩
  cases front with
  | nil => simpa using hsep
  | cons a front => simpa [List.getLast?_cons] using hfront

/-- A text without a separator is one piece; otherwise the pieces on both sides of a separator are
those of the text. -/
theorem isPiece_of_mem_split {s piece : List α} (h : piece ∈ split p s) : IsPiece p s piece := by
  by_cases hsome : ∃ sep ∈ s, p sep
  · obtain ⟨sep, hmem, hsep⟩ := hsome
    obtain ⟨front, rest, hs⟩ := List.append_of_mem hmem
    -- The text on either side of the separator is shorter.
    have hlength : s.length = front.length + (rest.length + 1) := by simp [hs]
    rw [hs, split_append_cons hsep, List.mem_append] at h
    rw [hs]
    rcases h with h | h
    · exact (isPiece_of_mem_split h).append_right hsep
    · exact (isPiece_of_mem_split h).append_left hsep
  · have hnone : ∀ a ∈ s, p a = false := fun a ha =>
      Bool.eq_false_iff.2 fun hsep => hsome ⟨a, ha, hsep⟩
    rw [split_of_forall_not hnone, List.mem_singleton] at h
    subst h
    exact ⟨hnone, [], [], by simp, by simp, by simp⟩
termination_by s.length
decreasing_by all_goals omega

theorem mem_split_of_isPiece (h : IsPiece p s piece) : piece ∈ split p s := by
  obtain ⟨hpiece, before, after, rfl, hbefore, hafter⟩ := h
  have hmiddle : piece ∈ split p (piece ++ after) := by
    cases after with
    | nil => simp [split_of_forall_not hpiece]
    | cons sep after =>
        rw [split_append_cons (hafter sep rfl), split_of_forall_not hpiece]
        exact List.mem_append_left _ List.mem_cons_self
  rcases List.eq_nil_or_concat before with rfl | ⟨front, sep, rfl⟩
  · simpa using hmiddle
  · have hsep : p sep := hbefore sep (by simp)
    rw [List.append_assoc, List.concat_eq_append, List.append_assoc, List.singleton_append,
      split_append_cons hsep]
    exact List.mem_append_right _ hmiddle

theorem mem_split_iff : piece ∈ split p s ↔ IsPiece p s piece :=
  ⟨isPiece_of_mem_split, mem_split_of_isPiece⟩

theorem cut?_eq_some_iff : cut? p s = some (before, after) ↔
    ∃ sep, p sep ∧ s = before ++ sep :: after ∧ ∀ a ∈ before, p a = false := by
  unfold cut?
  constructor
  · intro h
    have hsplit := List.takeWhile_append_dropWhile (p := (!p ·)) (l := s)
    have hhead := List.head?_dropWhile_not (!p ·) s
    split at h
    · cases h
    · rename_i sep rest hrest
      cases h
      rw [hrest] at hhead hsplit
      exact ⟨sep, by simpa using hhead, hsplit.symm,
        fun a ha => by simpa using List.mem_takeWhile_imp ha⟩
  · rintro ⟨sep, hsep, rfl, hbefore⟩
    have hplain : ∀ a ∈ before, (!p a) = true := by simpa using hbefore
    rw [List.dropWhile_append_of_pos hplain, List.takeWhile_append_of_pos hplain,
      List.dropWhile_cons_of_neg (by simpa using hsep),
      List.takeWhile_cons_of_neg (by simpa using hsep), List.append_nil]

theorem cutLast?_eq_some_iff : cutLast? p s = some (before, after) ↔
    ∃ sep, p sep ∧ s = before ++ sep :: after ∧ ∀ a ∈ after, p a = false := by
  have hreverse {sep : α} : s.reverse = after.reverse ++ sep :: before.reverse ↔
      s = before ++ sep :: after := by
    rw [← List.reverse_inj]
    simp
  simp only [cutLast?, Option.map_eq_some_iff, Prod.exists, Prod.mk.injEq]
  constructor
  · rintro ⟨first, second, hcut, rfl, rfl⟩
    obtain ⟨sep, hsep, hs, hplain⟩ := cut?_eq_some_iff.1 hcut
    refine ⟨sep, hsep, ?_, fun a ha => hplain a (List.mem_reverse.1 ha)⟩
    simpa using congrArg List.reverse hs
  · rintro ⟨sep, hsep, hs, hplain⟩
    refine ⟨after.reverse, before.reverse, cut?_eq_some_iff.2 ⟨sep, hsep, hreverse.2 hs, ?_⟩,
      List.reverse_reverse before, List.reverse_reverse after⟩
    exact fun a ha => hplain a (List.mem_reverse.1 ha)

end Pieces

/-! ## Joined pieces -/

/-- The pieces on both sides of a separator. -/
theorem splitAt_of_append {c : Char} {text first second : String}
    (h : text.toList = first.toList ++ c :: second.toList) :
    splitAt c text = splitAt c first ++ splitAt c second := by
  have hsep : (c == c) = true := beq_self_eq_true c
  rw [splitAt, h, split_append_cons (p := (· == c)) hsep, List.map_append]
  rfl

theorem splitAt_append {c : Char} {before after first last : String} {front back : List String}
    (hbefore : splitAt c before = front ++ [last]) (hafter : splitAt c after = first :: back) :
    splitAt c (before ++ after) = front ++ (last ++ first) :: back := by
  have hlists {text : String} {pieces : List String} (h : splitAt c text = pieces) :
      split (· == c) text.toList = pieces.map String.toList := by
    rw [← h, splitAt, List.map_map]
    simp [Function.comp_def]
  have hfront : split (· == c) before.toList = front.map String.toList ++ [last.toList] := by
    simpa using hlists hbefore
  have hback : split (· == c) after.toList = first.toList :: back.map String.toList := by
    simpa using hlists hafter
  rw [splitAt, String.toList_append, split_append hfront hback]
  simp [Function.comp_def, String.ofList_append]

theorem not_mem_of_mem_splitAt {c : Char} {text piece : String} (h : piece ∈ splitAt c text) :
    c ∉ piece.toList := by
  obtain ⟨chars, hchars, rfl⟩ := List.mem_map.1 h
  rw [String.toList_ofList]
  intro hmem
  simpa using (mem_split_iff.1 hchars).1 c hmem

theorem joinWith_cons_cons {c : Char} {first second : String} {others : List String} :
    joinWith c (first :: second :: others) =
      first ++ String.singleton c ++ joinWith c (second :: others) := by
  apply String.toList_injective
  simp [joinWith, List.intercalate_cons_cons]

theorem split_intercalate {α : Type u} [BEq α] [LawfulBEq α] {c : α} {pieces : List (List α)}
    (hne : pieces ≠ []) (h : ∀ piece ∈ pieces, c ∉ piece) :
    split (· == c) ([c].intercalate pieces) = pieces := by
  induction pieces with
  | nil => exact absurd rfl hne
  | cons piece pieces ih =>
      obtain ⟨hpiece, hpieces⟩ := List.forall_mem_cons.1 h
      have hplain : ∀ a ∈ piece, (a == c) = false := fun a ha =>
        beq_eq_false_iff_ne.2 fun heq => hpiece (heq ▸ ha)
      cases pieces with
      | nil => rw [List.intercalate_singleton, split_of_forall_not hplain]
      | cons next pieces =>
          rw [List.intercalate_cons_cons, List.append_assoc, List.singleton_append,
            split_append_cons (p := (· == c)) (beq_self_eq_true c), split_of_forall_not hplain,
            ih (List.cons_ne_nil _ _) hpieces, List.singleton_append]

/-- Joined pieces are found again if none of them holds the separator. -/
theorem splitAt_joinWith {c : Char} {pieces : List String} (hne : pieces ≠ [])
    (h : ∀ piece ∈ pieces, c ∉ piece.toList) : splitAt c (joinWith c pieces) = pieces := by
  rw [splitAt, joinWith, String.toList_ofList,
    split_intercalate (by simpa using hne) (by simpa using h)]
  simp

theorem intercalate_split {α : Type u} [BEq α] [LawfulBEq α] {c : α} (s : List α) :
    [c].intercalate (split (· == c) s) = s := by
  induction s with
  | nil => rfl
  | cons a s ih =>
      obtain ⟨first, rest, hfirst⟩ := List.exists_cons_of_ne_nil (split_ne_nil (· == c) s)
      rw [hfirst] at ih
      rw [split]
      split
      · rename_i ha
        rw [hfirst, List.intercalate_cons_cons, ih, beq_iff_eq.1 ha]
        rfl
      · rw [hfirst]
        cases rest with
        | nil => simpa using ih
        | cons next rest => simpa using ih

theorem joinWith_splitAt (c : Char) (text : String) : joinWith c (splitAt c text) = text := by
  simp [joinWith, splitAt, Function.comp_def, intercalate_split]

/-! ## Beginnings -/

theorem after?_eq_some_iff {α : Type u} [BEq α] [LawfulBEq α] {start s rest : List α} :
    after? start s = some rest ↔ s = start ++ rest := by
  induction start generalizing s with
  | nil => simp [after?]
  | cons a start ih =>
      cases s with
      | nil => simp [after?]
      | cons b s =>
          by_cases h : a = b
          · simp [after?, h, ih]
          · simp [after?, h, Ne.symm h]

end SearchGateway.Text
