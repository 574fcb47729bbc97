import Mathlib.Data.List.DropRight
import Mathlib.Data.List.TakeWhile
import SearchGateway.Text.Blank

/-!
# What trimming leaves

Trimming finds the one stretch of a text that has only blanks around it and none at its own ends
(`trim_eq_iff`).
-/

namespace SearchGateway.Text

theorem dropEndWhile_sublist {α : Type u} (p : α → Bool) (s : List α) :
    (dropEndWhile p s).Sublist s := by
  simpa [dropEndWhile] using (List.dropWhile_sublist p (l := s.reverse)).reverse

theorem dropEndWhile_map {α β : Type u} (p : β → Bool) (f : α → β) (s : List α) :
    dropEndWhile p (s.map f) = (dropEndWhile (p ∘ f) s).map f := by
  simp [dropEndWhile, ← List.map_reverse, List.dropWhile_map]

theorem mem_of_mem_trimmed {c : Char} {text : String} (h : c ∈ (trimmed text).toList) :
    c ∈ text.toList := by
  have hsublist : (trim text.toList).Sublist text.toList :=
    (dropEndWhile_sublist _ _).trans (List.dropWhile_sublist _)
  exact hsublist.subset (by simpa [trimmed] using h)

section Ends

variable {α : Type u} {p : α → Bool} {l front rest back : List α} {a : α}

theorem head?_dropWhile_eq_some (h : (l.dropWhile p).head? = some a) : p a = false := by
  have hhead := List.head?_dropWhile_not p l
  rw [h] at hhead
  exact hhead

theorem dropWhile_append_of_head (hfront : ∀ a ∈ front, p a)
    (hrest : ∀ a ∈ rest.head?, p a = false) : (front ++ rest).dropWhile p = rest := by
  rw [List.dropWhile_append_of_pos hfront]
  cases rest with
  | nil => rfl
  | cons a rest => simp [hrest a rfl]

theorem takeWhile_append_of_head (hfront : ∀ a ∈ front, p a)
    (hrest : ∀ a ∈ rest.head?, p a = false) : (front ++ rest).takeWhile p = front := by
  rw [List.takeWhile_append_of_pos hfront]
  cases rest with
  | nil => simp
  | cons a rest => simp [hrest a rfl]

theorem dropEndWhile_append_of_last (hfront : ∀ a ∈ front.getLast?, p a = false)
    (hback : ∀ a ∈ back, p a) : dropEndWhile p (front ++ back) = front := by
  rw [dropEndWhile, List.reverse_append, dropWhile_append_of_head, List.reverse_reverse]
  · simpa using hback
  · simpa using hfront

theorem getLast?_dropEndWhile_eq_some (h : (dropEndWhile p l).getLast? = some a) :
    p a = false := by
  rw [dropEndWhile, List.getLast?_reverse] at h
  exact head?_dropWhile_eq_some h

end Ends

/-- A text is what another one has between the blanks at its ends. -/
structure Trims (s t : List Char) : Prop where
  within : ∃ front back, s = front ++ (t ++ back) ∧ (∀ c ∈ front, isBlank c) ∧
    ∀ c ∈ back, isBlank c
  first : ∀ c ∈ t.head?, isBlank c = false
  last : ∀ c ∈ t.getLast?, isBlank c = false

variable {s t : List Char}

theorem trims_trim (s : List Char) : Trims s (trim s) := by
  have hback : trim s ++ (s.dropWhile isBlank).rtakeWhile isBlank = s.dropWhile isBlank :=
    List.rdropWhile_append_rtakeWhile
  constructor
  · refine ⟨s.takeWhile isBlank, (s.dropWhile isBlank).rtakeWhile isBlank, ?_,
      fun c => List.mem_takeWhile_imp, fun c => List.mem_rtakeWhile_imp⟩
    rw [hback, List.takeWhile_append_dropWhile]
  · intro c hc
    refine head?_dropWhile_eq_some (l := s) ?_
    rw [← hback, List.head?_append, hc, Option.some_or]
  · intro c hc
    exact getLast?_dropEndWhile_eq_some hc

/-- Trimming finds the text between the blanks, and there is only one. -/
theorem trim_eq_iff : trim s = t ↔ Trims s t := by
  constructor
  · rintro rfl
    exact trims_trim s
  · rintro ⟨⟨front, back, rfl, hfront, hback⟩, hfirst, hlast⟩
    rw [trim]
    cases t with
    | nil =>
        have hall : ∀ c ∈ front ++ ([] ++ back), isBlank c := by
          simpa [or_imp, forall_and] using And.intro hfront hback
        rw [List.dropWhile_eq_nil_iff.2 hall]
        rfl
    | cons c t =>
        have hhead : ∀ a ∈ (c :: t ++ back).head?, isBlank a = false := by simpa using hfirst
        rw [dropWhile_append_of_head hfront hhead, dropEndWhile_append_of_last hlast hback]

/-- A text that is trimmed begins with a word if the word comes after blanks only. -/
theorem exists_trim_eq_append_iff {word : List Char} (hne : word ≠ [])
    (hfirst : ∀ c ∈ word.head?, isBlank c = false)
    (hlast : ∀ c ∈ word.getLast?, isBlank c = false) :
    (∃ rest, trim s = word ++ rest) ↔
      ∃ front rest, s = front ++ (word ++ rest) ∧ ∀ c ∈ front, isBlank c := by
  constructor
  · rintro ⟨rest, hrest⟩
    obtain ⟨⟨front, back, hs, hfront, -⟩, -, -⟩ := trims_trim s
    exact ⟨front, rest ++ back, by rw [hs, hrest, List.append_assoc], hfront⟩
  · rintro ⟨front, rest, rfl, hfront⟩
    have hhead : ∀ c ∈ (word ++ rest).head?, isBlank c = false := by
      rwa [List.head?_append_of_ne_nil _ hne]
    have hrest : dropEndWhile isBlank rest ++ rest.rtakeWhile isBlank = rest :=
      List.rdropWhile_append_rtakeWhile
    refine ⟨dropEndWhile isBlank rest, ?_⟩
    rw [trim, dropWhile_append_of_head hfront hhead, ← hrest, ← List.append_assoc,
      dropEndWhile_append_of_last _ fun c => List.mem_rtakeWhile_imp, hrest]
    intro c hc
    -- The last character is that of the word if nothing but blanks follows it.
    rw [List.getLast?_append] at hc
    cases hkept : (dropEndWhile isBlank rest).getLast? with
    | none => exact hlast c (by simpa [hkept] using hc)
    | some last =>
        obtain rfl : last = c := by simpa [hkept] using hc
        exact getLast?_dropEndWhile_eq_some hkept

theorem mem_trim {c : Char} (h : c ∈ s) (hc : isBlank c = false) : c ∈ trim s := by
  obtain ⟨⟨front, back, hs, hfront, hback⟩, -, -⟩ := trims_trim s
  rw [hs, List.mem_append, List.mem_append] at h
  rcases h with h | h | h
  · exact absurd (hfront c h) (Bool.eq_false_iff.1 hc)
  · exact h
  · exact absurd (hback c h) (Bool.eq_false_iff.1 hc)

theorem trimmed_eq_self {text : String} (hfirst : ∀ c ∈ text.toList.head?, isBlank c = false)
    (hlast : ∀ c ∈ text.toList.getLast?, isBlank c = false) : trimmed text = text := by
  have htrims : Trims text.toList text.toList :=
    ⟨⟨[], [], by simp, by simp, by simp⟩, hfirst, hlast⟩
  rw [trimmed, trim_eq_iff.2 htrims, String.ofList_toList]

theorem trimmed_eq_empty_iff {text : String} :
    trimmed text = "" ↔ ∀ c ∈ text.toList, isBlank c := by
  rw [← String.toList_inj, trimmed, String.toList_ofList, String.toList_empty, trim_eq_iff]
  constructor
  · rintro ⟨⟨front, back, hs, hfront, hback⟩, -, -⟩ c hc
    rw [hs, List.nil_append, List.mem_append] at hc
    exact hc.elim (hfront c) (hback c)
  · intro hall
    exact ⟨⟨text.toList, [], by simp, hall, by simp⟩, by simp, by simp⟩

/-- No visible character of ASCII is a blank. -/
theorem isBlank_eq_false {c : Char} (hlow : 0x20 < c.toNat) (hhigh : c.toNat < 0x7F) :
    isBlank c = false := by
  simp only [isBlank, Bool.or_eq_false_iff, Bool.and_eq_false_iff, decide_eq_false_iff_not,
    beq_eq_false_iff_ne]
  omega

end SearchGateway.Text
