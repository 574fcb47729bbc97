import Mathlib.Tactic.SplitIfs
import SearchGateway.Toml.Quotation

/-!
# Quoted texts are read as what was written

Whatever form the writer takes for a text, the reader finds the text again, as a value
(`readText?_write`) and as a key (`readQuoted?_write`).
-/

namespace SearchGateway.Toml

variable {c e : Char} {s rest : List Char} {n left value : Nat}

/-! ## Escapes -/

theorem scalar?_toNat (c : Char) : scalar? c.toNat = some c := by
  have hvalid : c.toNat.isValidChar := c.valid
  rw [scalar?, dif_pos hvalid, Option.some_inj]
  apply Char.ext
  exact UInt32.ofNat_toNat

theorem hexadecimal?_upperDigit (hn : n < 16) : Text.hexadecimal? (upperDigit n) = some n := by
  have hall : ∀ n < 16, Text.hexadecimal? (upperDigit n) = some n := by decide
  exact hall n hn

/-- A reader of quoted texts takes up escapes. -/
structure TakesEscapes (scan : Scan → List Char → Option (List Char × List Char)) : Prop where
  slash : ∀ rest, scan .plain ('\\' :: rest) = scan .escaped rest
  escaped : ∀ {c next read} (rest), scanEscape c = some (next, read) →
    scan .escaped (c :: rest) = (scan next rest).map fun (s, rest) => (read ++ s, rest)
  digits : ∀ {left value c next read} (rest), scanDigit left value c = some (next, read) →
    scan (.digits left value) (c :: rest) = (scan next rest).map fun (s, rest) => (read ++ s, rest)

theorem not_gap_of_scanEscape {next : Scan} {read : List Char}
    (h : scanEscape c = some (next, read)) : isGap c = false ∧ c ≠ '\n' := by
  have hne {mark : Char} (hmark : scanEscape mark = none) : c ≠ mark := by
    rintro rfl
    simp [hmark] at h
  have hspace : c ≠ ' ' := hne rfl
  have htab : c ≠ '\t' := hne rfl
  exact ⟨by simp [isGap, hspace, htab], hne rfl⟩

theorem isTriple_cons_of_ne {mark : Char} (h : c ≠ mark) : isTriple mark (c :: s) = false := by
  match s with
  | [] | [_] => rfl
  | _ :: _ :: _ => simp [isTriple, h]

theorem isTriple_marks {mark : Char} : isTriple mark (mark :: mark :: mark :: s) = true := by
  simp [isTriple]

theorem takesEscapes_scanText : TakesEscapes scanText where
  slash rest := by simp [scanText]
  escaped rest h := by
    simp only [scanText, h, Option.bind_eq_bind, Option.bind_some, Option.map_eq_bind]
    rfl
  digits rest h := by
    simp only [scanText, h, Option.bind_eq_bind, Option.bind_some, Option.map_eq_bind]
    rfl

theorem takesEscapes_scanLines : TakesEscapes scanLines where
  slash rest := by simp [scanLines, isTriple_cons_of_ne]
  escaped rest h := by
    obtain ⟨hgap, hbreak⟩ := not_gap_of_scanEscape h
    simp only [scanLines, hgap, hbreak, h, Option.bind_eq_bind, Option.bind_some,
      Option.map_eq_bind, if_false, Bool.false_eq_true]
    rfl
  digits rest h := by
    simp only [scanLines, h, Option.bind_eq_bind, Option.bind_some, Option.map_eq_bind]
    rfl

/-- A character that stands for itself between quotation marks on one line. -/
structure IsVerbatim (c : Char) : Prop where
  printable : isPrintable c
  mark : c ≠ '"'
  slash : c ≠ '\\'

theorem spell_cases (c : Char) : IsVerbatim c ∧ spell c = [c] ∨
    (∃ e, spell c = ['\\', e] ∧ isPrintable e ∧ scanEscape e = some (.plain, [c])) ∨
    (c.toNat < 0x80 ∧ spell c =
      ['\\', 'u', '0', '0', upperDigit (c.toNat / 16), upperDigit (c.toNat % 16)]) := by
  unfold spell
  split_ifs with h1 h2 h3 h4 h5 h6 h7 h8
  · exact .inr (.inl ⟨'b', rfl, rfl, by rw [h1]; rfl⟩)
  · exact .inr (.inl ⟨'t', rfl, rfl, by rw [h2]; rfl⟩)
  · exact .inr (.inl ⟨'n', rfl, rfl, by rw [h3]; rfl⟩)
  · exact .inr (.inl ⟨'f', rfl, rfl, by rw [h4]; rfl⟩)
  · exact .inr (.inl ⟨'r', rfl, rfl, by rw [h5]; rfl⟩)
  · exact .inr (.inl ⟨'"', rfl, rfl, by rw [h6]; rfl⟩)
  · exact .inr (.inl ⟨'\\', rfl, rfl, by rw [h7]; rfl⟩)
  · exact .inr (.inr ⟨by omega, rfl⟩)
  · refine .inl ⟨⟨?_, h6, h7⟩, rfl⟩
    simp only [isPrintable, Bool.or_eq_true, Bool.and_eq_true, decide_eq_true_eq, bne_iff_ne]
    omega

theorem isVerbatim_of_spell_eq (h : spell c = [c]) : IsVerbatim c := by
  rcases spell_cases c with ⟨hverbatim, -⟩ | ⟨e, hspell, -⟩ | ⟨-, hspell⟩
  · exact hverbatim
  all_goals simp [hspell] at h

/-- The reader of quoted texts takes up a character that is spelled by an escape. -/
theorem TakesEscapes.scan_spell {scan : Scan → List Char → Option (List Char × List Char)}
    (h : TakesEscapes scan) (hc : spell c ≠ [c]) :
    scan .plain (spell c ++ rest) = (scan .plain rest).map fun (s, rest) => (c :: s, rest) := by
  rcases spell_cases c with ⟨-, hspell⟩ | ⟨e, hspell, -, he⟩ | ⟨hlow, hspell⟩
  · exact absurd hspell hc
  · rw [hspell, List.cons_append, List.singleton_append, h.slash, h.escaped rest he]
    rfl
  · have hu : scanEscape 'u' = some (.digits 4 0, []) := rfl
    have hzero (left value : Nat) (hleft : 1 < left) :
        scanDigit left value '0' = some (.digits (left - 1) (value * 16), []) := by
      simp [scanDigit, Text.hexadecimal?, hleft]
    have hhigh : scanDigit 2 0 (upperDigit (c.toNat / 16)) =
        some (.digits 1 (c.toNat / 16), []) := by
      simp [scanDigit, hexadecimal?_upperDigit (show c.toNat / 16 < 16 by omega)]
    have hlow : scanDigit 1 (c.toNat / 16) (upperDigit (c.toNat % 16)) = some (.plain, [c]) := by
      simp [scanDigit, hexadecimal?_upperDigit (Nat.mod_lt _ (by decide : 0 < 16)),
        Nat.div_add_mod', scalar?_toNat]
    simp only [hspell, List.cons_append, List.nil_append, h.slash]
    rw [h.escaped _ hu, h.digits _ (hzero 4 0 (by decide)), h.digits _ (hzero 3 _ (by decide)),
      h.digits _ hhigh, h.digits _ hlow]
    simp [Function.comp_def]

/-! ## One line -/

theorem scanText_verbatim (hc : IsVerbatim c) :
    scanText .plain (c :: rest) = (scanText .plain rest).map fun (s, rest) => (c :: s, rest) := by
  obtain ⟨hprintable, hmark, hslash⟩ := hc
  simp [scanText, hprintable, hmark, hslash]

theorem scanText_spell (c : Char) :
    scanText .plain (spell c ++ rest) =
      (scanText .plain rest).map fun (s, rest) => (c :: s, rest) := by
  by_cases hc : spell c = [c]
  · rw [hc]
    exact scanText_verbatim (isVerbatim_of_spell_eq hc)
  · exact takesEscapes_scanText.scan_spell hc

theorem scanText_flatMap_spell (s : List Char) :
    scanText .plain (s.flatMap spell ++ '"' :: rest) = some (s, rest) := by
  induction s with
  | nil => simp [scanText]
  | cons c s ih => rw [List.flatMap_cons, List.append_assoc, scanText_spell, ih, Option.map_some]

theorem scanLiteral_append (h : ∀ c ∈ s, isPrintable c ∧ c ≠ '\'') :
    scanLiteral (s ++ '\'' :: rest) = some (s, rest) := by
  induction s with
  | nil => simp [scanLiteral]
  | cons c s ih =>
      obtain ⟨⟨hprintable, hmark⟩, hs⟩ := List.forall_mem_cons.1 h
      rw [List.cons_append, scanLiteral, if_neg hmark, if_pos hprintable, ih hs, Option.map_some]

/-! ## Several lines -/

theorem closing_of_head {mark : Char} (hrest : ∀ c ∈ rest.head?, c ≠ mark) :
    closing mark rest = ([], rest) ∧ closing mark (mark :: rest) = ([mark], rest) ∧
      closing mark (mark :: mark :: rest) = ([mark, mark], rest) := by
  match rest with
  | [] => simp [closing]
  | [c] =>
      have hc : c ≠ mark := hrest c rfl
      simp [closing, hc]
  | c :: d :: rest =>
      have hc : c ≠ mark := hrest c rfl
      simp [closing, hc]

theorem scanLines_triple :
    scanLines .plain ('"' :: '"' :: '"' :: rest) = some (closing '"' rest) := by
  simp [scanLines, isTriple_marks]

theorem scanLines_mark (h : isTriple '"' ('"' :: rest) = false) :
    scanLines .plain ('"' :: rest) =
      (scanLines .plain rest).map fun (s, rest) => ('"' :: s, rest) := by
  have hprintable : isPrintable '"' = true := by decide
  simp [scanLines, h, hprintable]

theorem scanLines_verbatim (hc : IsVerbatim c ∨ c = '\n') :
    scanLines .plain (c :: rest) = (scanLines .plain rest).map fun (s, rest) => (c :: s, rest) := by
  have hmark : c ≠ '"' := hc.elim (·.mark) fun h => h ▸ by decide
  have hslash : c ≠ '\\' := hc.elim (·.slash) fun h => h ▸ by decide
  have hprintable : isPrintable c ∨ c = '\n' := hc.imp_left (·.printable)
  simp [scanLines, isTriple_cons_of_ne hmark, hslash, hprintable]

theorem scanLines_spell (c : Char) :
    scanLines .plain (spell c ++ rest) =
      (scanLines .plain rest).map fun (s, rest) => (c :: s, rest) := by
  by_cases hc : spell c = [c]
  · rw [hc]
    exact scanLines_verbatim (.inl (isVerbatim_of_spell_eq hc))
  · exact takesEscapes_scanLines.scan_spell hc

/-- A third mark in a row is not spelled by itself. -/
theorem exists_spellLines_cons (c : Char) (s : List Char) {run : Nat} (h : c ≠ '"' ∨ 2 ≤ run) :
    ∃ d front, spellLines run (c :: s) = d :: front ∧ d ≠ '"' := by
  rw [spellLines]
  split_ifs with hmark hrun hbreak
  · exact absurd hrun (Nat.not_lt.2 (h.resolve_left (not_not_intro hmark)))
  · exact ⟨'\\', _, rfl, by decide⟩
  · exact ⟨'\n', _, rfl, by decide⟩
  · rcases spell_cases c with ⟨-, hspell⟩ | ⟨e, hspell, -⟩ | ⟨-, hspell⟩
    · exact ⟨c, _, by rw [hspell]; rfl, hmark⟩
    all_goals exact ⟨'\\', _, by rw [hspell]; rfl, by decide⟩

/-- Three marks in a row are the closing ones, or those that end the text stand before them. -/
theorem isTriple_spellLines (rest : List Char) {run : Nat} (hne : s ≠ [])
    (hlast : run = 0 → s ≠ ['"']) :
    isTriple '"' ('"' :: (spellLines (run + 1) s ++ rest)) = false := by
  obtain ⟨c, s, rfl⟩ := List.exists_cons_of_ne_nil hne
  by_cases hc : c = '"' ∧ run = 0
  · obtain ⟨rfl, rfl⟩ := hc
    obtain ⟨d, s, rfl⟩ := List.exists_cons_of_ne_nil (l := s) (by simpa using hlast rfl)
    obtain ⟨e, front, hfront, he⟩ := exists_spellLines_cons d s (.inr (Nat.le_refl 2))
    have hmarks : spellLines 1 ('"' :: d :: s) = '"' :: e :: front := by
      rw [spellLines, if_pos rfl, if_pos (by decide), hfront]
    rw [Nat.zero_add, hmarks]
    simp [isTriple, he]
  · obtain ⟨e, front, hfront, he⟩ :=
      exists_spellLines_cons c s ((Classical.not_and_iff_not_or_not.1 hc).imp_right fun hrun =>
        show 2 ≤ run + 1 by omega)
    rw [hfront, List.cons_append]
    cases front ++ rest <;> simp [isTriple, he]

/-- No three marks stand in a row before the closing ones, so these end the text. -/
theorem scanLines_spellLines (run : Nat) (hrest : ∀ c ∈ rest.head?, c ≠ '"') :
    scanLines .plain (spellLines run s ++ '"' :: '"' :: '"' :: rest) = some (s, rest) := by
  obtain ⟨hnone, hone, htwo⟩ := closing_of_head hrest
  induction s generalizing run with
  | nil => rw [spellLines, List.nil_append, scanLines_triple, hnone]
  | cons c s ih =>
      rw [spellLines]
      split_ifs with hmark hrun hbreak
      · subst hmark
        by_cases hnil : s = []
        · rw [hnil, spellLines, List.singleton_append, scanLines_triple, hone]
        · by_cases hlast : run = 0 ∧ s = ['"']
          · obtain ⟨rfl, rfl⟩ := hlast
            exact scanLines_triple.trans (congrArg some htwo)
          · have htriple := isTriple_spellLines ('"' :: '"' :: '"' :: rest) hnil
              fun hzero hs => hlast ⟨hzero, hs⟩
            rw [List.cons_append, scanLines_mark htriple, ih, Option.map_some]
      · subst hmark
        have hescape : scanEscape '"' = some (.plain, ['"']) := rfl
        rw [List.cons_append, takesEscapes_scanLines.slash, List.cons_append,
          takesEscapes_scanLines.escaped _ hescape, ih]
        rfl
      · subst hbreak
        rw [List.cons_append, scanLines_verbatim (.inr rfl), ih, Option.map_some]
      · rw [List.append_assoc, scanLines_spell c, ih, Option.map_some]

theorem le_longestRun (mark : Char) (run : Nat) (s : List Char) : run ≤ longestRun mark run s := by
  induction s generalizing run with
  | nil => exact Nat.le_refl run
  | cons c s ih =>
      rw [longestRun]
      split
      · exact Nat.le_of_succ_le (ih _)
      · exact Nat.le_max_left _ _

theorem isTriple_append (rest : List Char) {mark : Char} {run : Nat} (hne : s ≠ [])
    (hone : s ≠ [mark]) (hrun : longestRun mark (run + 1) s ≤ 2) :
    isTriple mark (mark :: (s ++ rest)) = false := by
  obtain ⟨c, s, rfl⟩ := List.exists_cons_of_ne_nil hne
  by_cases hc : c = mark
  · subst hc
    obtain ⟨d, s, rfl⟩ := List.exists_cons_of_ne_nil (l := s) (by simpa using hone)
    have hd : d ≠ c := by
      rintro rfl
      have hle := le_longestRun d (run + 1 + 1 + 1) s
      simp only [longestRun, if_true] at hrun
      omega
    simp [isTriple, hd]
  · rw [List.cons_append]
    cases s ++ rest <;> simp [isTriple, hc]

/-- At most two marks stand in a row, so the closing ones end the text. -/
theorem scanLiteralLines_append {run : Nat} (hplain : ∀ c ∈ s, isPrintable c ∨ c = '\n')
    (hrun : longestRun '\'' run s ≤ 2) (hrest : ∀ c ∈ rest.head?, c ≠ '\'') :
    scanLiteralLines (s ++ '\'' :: '\'' :: '\'' :: rest) = some (s, rest) := by
  obtain ⟨hnone, hone, htwo⟩ := closing_of_head hrest
  have htriple (rest : List Char) :
      scanLiteralLines ('\'' :: '\'' :: '\'' :: rest) = some (closing '\'' rest) := by
    simp [scanLiteralLines, isTriple_marks]
  induction s generalizing run with
  | nil => rw [List.nil_append, htriple, hnone]
  | cons c s ih =>
      obtain ⟨hc, hs⟩ := List.forall_mem_cons.1 hplain
      rw [longestRun] at hrun
      by_cases hmark : c = '\''
      · subst hmark
        rw [if_pos rfl] at hrun
        by_cases hnil : s = []
        · rw [hnil, List.singleton_append, htriple, hone]
        · by_cases hlast : s = ['\'']
          · rw [hlast]
            exact (htriple _).trans (congrArg some htwo)
          · have hsingle :=
              isTriple_append ('\'' :: '\'' :: '\'' :: rest) hnil hlast hrun
            rw [List.cons_append, scanLiteralLines, hsingle, if_neg Bool.false_ne_true, if_pos hc,
              ih hs hrun, Option.map_some]
      · rw [if_neg hmark] at hrun
        rw [List.cons_append, scanLiteralLines, isTriple_cons_of_ne hmark,
          if_neg Bool.false_ne_true, if_pos hc, ih hs (Nat.le_trans (Nat.le_max_right _ _) hrun),
          Option.map_some]

/-! ## What is written -/

theorem isPlain_iff : isPlain s = true ↔ ∀ c ∈ s, isPrintable c ∨ c = '\n' := by
  simp [isPlain]

@[simp] theorem isPlain_nil : isPlain [] = true := rfl

@[simp] theorem isPlain_cons : isPlain (c :: s) = ((isPrintable c || c == '\n') && isPlain s) :=
  List.all_cons

@[simp] theorem isPlain_append : isPlain (s ++ rest) = (isPlain s && isPlain rest) :=
  List.all_append

theorem printable_upperDigit (hn : n < 16) : isPrintable (upperDigit n) := by
  have hall : ∀ n < 16, isPrintable (upperDigit n) := by decide
  exact hall n hn

theorem printable_of_mem_spell (hc : c ∈ spell e) : isPrintable c := by
  rcases spell_cases e with ⟨hverbatim, hspell⟩ | ⟨f, hspell, hf, -⟩ | ⟨hlow, hspell⟩
  · rw [hspell, List.mem_singleton] at hc
    exact hc ▸ hverbatim.printable
  · have hslash : isPrintable '\\' := by decide
    rw [hspell] at hc
    simp only [List.mem_cons, List.not_mem_nil, or_false] at hc
    rcases hc with rfl | rfl <;> assumption
  · have hstart : ∀ c ∈ ['\\', 'u', '0', '0'], isPrintable c :=
      List.all_eq_true.1 (by decide)
    have hhigh := printable_upperDigit (show e.toNat / 16 < 16 by omega)
    have hdigit := printable_upperDigit (Nat.mod_lt e.toNat (by decide : 0 < 16))
    rw [hspell] at hc
    simp only [List.mem_cons, List.not_mem_nil, or_false] at hc
    rcases hc with rfl | rfl | rfl | rfl | rfl | rfl <;> simp_all

theorem printable_of_mem_spellLines {run : Nat} (hc : c ∈ spellLines run s) :
    isPrintable c ∨ c = '\n' ∧ '\n' ∈ s := by
  have hmarks : ∀ c ∈ ['"', '\\'], isPrintable c := List.all_eq_true.1 (by decide)
  induction s generalizing run with
  | nil => simp [spellLines] at hc
  | cons d s ih =>
      have hrest {run : Nat} (h : c ∈ spellLines run s) :
          isPrintable c ∨ c = '\n' ∧ '\n' ∈ d :: s :=
        (ih h).imp_right fun h => ⟨h.1, List.mem_cons_of_mem d h.2⟩
      rw [spellLines] at hc
      split_ifs at hc with hmark hrun hbreak
      · rcases List.mem_cons.1 hc with rfl | hc
        · exact .inl (hmarks _ (by simp))
        · exact hrest hc
      · rcases List.mem_cons.1 hc with rfl | hc
        · exact .inl (hmarks _ (by simp))
        · rcases List.mem_cons.1 hc with rfl | hc
          · exact .inl (hmarks _ (by simp))
          · exact hrest hc
      · rcases List.mem_cons.1 hc with rfl | hc
        · exact .inr ⟨rfl, by simp [hbreak]⟩
        · exact hrest hc
      · rcases List.mem_append.1 hc with hc | hc
        · exact .inl (printable_of_mem_spell hc)
        · exact hrest hc

/-! ## Forms -/

/-- A text can stand in a form. -/
def Form.Suits : Form → List Char → Prop
  | .text, _ => True
  | .literal, s => ∀ c ∈ s, isPrintable c ∧ c ≠ '\''
  | .lines, _ => True
  | .literalLines, s => (∀ c ∈ s, isPrintable c ∨ c = '\n') ∧ longestRun '\'' 0 s ≤ 2

theorem not_mem_of_longestRun {mark : Char} {run : Nat} (h : longestRun mark run s = 0) :
    mark ∉ s := by
  induction s generalizing run with
  | nil => exact List.not_mem_nil
  | cons c s ih =>
      rw [longestRun] at h
      split at h
      · have hle := le_longestRun mark (run + 1) s
        omega
      · rename_i hc
        have hnone : longestRun mark 0 s = 0 := by omega
        simpa [Ne.symm hc] using ih hnone

theorem Form.suits_ofValue (s : List Char) : (Form.ofValue s).Suits s := by
  unfold Form.ofValue
  dsimp only
  split_ifs with htext hliteral hlines hmarks hbreaks
  · trivial
  · simp only [Bool.and_eq_true, beq_iff_eq, Bool.not_eq_true', List.contains_eq_mem,
      decide_eq_false_iff_not, isPlain_iff] at hliteral
    obtain ⟨⟨hplain, hnone⟩, hbreak⟩ := hliteral
    intro c hc
    refine ⟨(hplain c hc).resolve_right ?_, ?_⟩
    · rintro rfl
      exact hbreak hc
    · rintro rfl
      exact not_mem_of_longestRun hnone hc
  · trivial
  · simpa [isPlain_iff, Form.Suits] using hmarks
  · trivial
  · trivial

theorem Form.suits_ofKey (s : List Char) : (Form.ofKey s).Suits s := by
  unfold Form.ofKey
  split_ifs with hliteral
  · simp only [Bool.and_eq_true, Bool.not_eq_true', List.contains_eq_mem,
      decide_eq_false_iff_not, List.all_eq_true] at hliteral
    intro c hc
    refine ⟨hliteral.1.1 c hc, ?_⟩
    rintro rfl
    exact hliteral.2 hc
  · trivial

/-- A text on one line is read back, as a key or as a value. -/
theorem readQuoted?_write (rest : List Char) {form : Form} (hform : form = .text ∨ form = .literal)
    (hsuits : form.Suits s) :
    readQuoted? (form.write s ++ rest) = some (String.ofList s, rest) := by
  rcases hform with rfl | rfl
  · simp only [Form.write, List.cons_append, List.append_assoc, List.nil_append, readQuoted?,
      scanText_flatMap_spell, Option.map_some]
  · simp only [Form.write, List.cons_append, List.append_assoc, List.nil_append, readQuoted?,
      scanLiteral_append hsuits, Option.map_some]

theorem isTriple_quoted {mark : Char} {front : List Char} (hfront : ∀ c ∈ front.head?, c ≠ mark)
    (hrest : ∀ c ∈ rest.head?, c ≠ mark) :
    isTriple mark (mark :: (front ++ mark :: rest)) = false := by
  match front, rest with
  | [], [] => rfl
  | [], c :: rest => simpa [isTriple] using hrest
  | c :: front, rest =>
      have hc : c ≠ mark := hfront c rfl
      rw [List.cons_append]
      cases hback : front ++ mark :: rest <;> simp [isTriple, hc]

theorem head?_flatMap_spell : ∀ c ∈ (s.flatMap spell).head?, c ≠ '"' := by
  cases s with
  | nil => simp
  | cons d s =>
      rcases spell_cases d with ⟨hverbatim, hspell⟩ | ⟨e, hspell, -⟩ | ⟨-, hspell⟩
      · simpa [hspell] using hverbatim.mark
      all_goals simp [hspell]

theorem dropBreak_write (hhead : '\n' ∉ s → ∀ c ∈ rest.head?, c ≠ '\n') :
    dropBreak ((if s.contains '\n' then ['\n'] else []) ++ rest) = rest := by
  by_cases hbreak : '\n' ∈ s
  · simp [hbreak, dropBreak]
  · simp only [List.contains_eq_mem, hbreak, decide_false, Bool.false_eq_true, if_false,
      List.nil_append]
    match rest with
    | [] => rfl
    | c :: rest =>
        have hc : c ≠ '\n' := hhead hbreak c rfl
        unfold dropBreak
        split
        · rename_i heq
          exact absurd (List.cons.inj heq).1 hc
        · rfl

theorem head?_append_mark {mark : Char} {front : List Char} (hmark : mark ≠ '\n')
    (hfront : '\n' ∉ front) : ∀ c ∈ (front ++ mark :: rest).head?, c ≠ '\n' := by
  cases front with
  | nil => simpa using hmark
  | cons c front =>
      simp only [List.mem_cons, not_or] at hfront
      simpa using Ne.symm hfront.1

/-- A text is read back in whatever form it can stand in, if no mark follows. -/
theorem readText?_write {form : Form} (hsuits : form.Suits s)
    (hrest : ∀ c ∈ rest.head?, c ≠ '"' ∧ c ≠ '\'') :
    readText? (form.write s ++ rest) = some (String.ofList s, rest) := by
  have hmark : ∀ c ∈ rest.head?, c ≠ '"' := fun c hc => (hrest c hc).1
  have hapostrophe : ∀ c ∈ rest.head?, c ≠ '\'' := fun c hc => (hrest c hc).2
  cases form with
  | text =>
      have hquoted : readQuoted? (Form.text.write s ++ rest) = some (String.ofList s, rest) :=
        readQuoted?_write _ (.inl rfl) hsuits
      have htext : Form.text.write s ++ rest = '"' :: (s.flatMap spell ++ '"' :: rest) := by
        simp [Form.write]
      rw [readText?, hquoted, htext, isTriple_quoted head?_flatMap_spell hmark,
        isTriple_cons_of_ne (by decide)]
      rfl
  | literal =>
      have hquoted : readQuoted? (Form.literal.write s ++ rest) = some (String.ofList s, rest) :=
        readQuoted?_write _ (.inr rfl) hsuits
      have htext : Form.literal.write s ++ rest = '\'' :: (s ++ '\'' :: rest) := by
        simp [Form.write]
      have hhead : ∀ c ∈ s.head?, c ≠ '\'' := fun c hc => (hsuits c (List.mem_of_mem_head? hc)).2
      rw [readText?, hquoted, htext, isTriple_quoted hhead hapostrophe,
        isTriple_cons_of_ne (by decide)]
      rfl
  | lines =>
      have htext : Form.lines.write s ++ rest = '"' :: '"' :: '"' ::
          ((if s.contains '\n' then ['\n'] else []) ++
            (spellLines 0 s ++ '"' :: '"' :: '"' :: rest)) := by
        simp [Form.write]
      have hfront (hbreak : '\n' ∉ s) : '\n' ∉ spellLines 0 s := fun hmem =>
        (printable_of_mem_spellLines hmem).elim (by decide) fun h => hbreak h.2
      rw [readText?, htext, isTriple_marks, if_pos rfl, List.drop_succ_cons,
        List.drop_succ_cons, List.drop_succ_cons, List.drop_zero,
        dropBreak_write fun hbreak => head?_append_mark (by decide) (hfront hbreak),
        scanLines_spellLines 0 hmark, Option.map_some]
  | literalLines =>
      have htext : Form.literalLines.write s ++ rest = '\'' :: '\'' :: '\'' ::
          ((if s.contains '\n' then ['\n'] else []) ++ (s ++ '\'' :: '\'' :: '\'' :: rest)) := by
        simp [Form.write]
      rw [readText?, htext, isTriple_cons_of_ne (by decide), if_neg Bool.false_ne_true,
        isTriple_marks, if_pos rfl, List.drop_succ_cons, List.drop_succ_cons, List.drop_succ_cons,
        List.drop_zero,
        dropBreak_write fun hbreak => head?_append_mark (by decide) hbreak,
        scanLiteralLines_append hsuits.1 hsuits.2 hapostrophe, Option.map_some]

/-- A text is read back as it is written. -/
theorem readText?_writeText (hrest : ∀ c ∈ rest.head?, c ≠ '"' ∧ c ≠ '\'') :
    readText? (writeText s ++ rest) = some (String.ofList s, rest) :=
  readText?_write (Form.suits_ofValue s) hrest

theorem isPlain_write {form : Form} (hsuits : form.Suits s) : isPlain (form.write s) := by
  have hmarks : isPrintable '"' ∧ isPrintable '\'' := by decide
  have hstart : isPlain (if s.contains '\n' then ['\n'] else []) := by
    split <;> rfl
  cases form with
  | text =>
      have hspell : isPlain (s.flatMap spell) := isPlain_iff.2 fun c hc => by
        obtain ⟨d, -, hc⟩ := List.mem_flatMap.1 hc
        exact .inl (printable_of_mem_spell hc)
      simp [Form.write, hmarks, hspell]
  | literal =>
      have hplain : isPlain s := isPlain_iff.2 fun c hc => .inl (hsuits c hc).1
      simp [Form.write, hmarks, hplain]
  | lines =>
      have hplain : isPlain (spellLines 0 s) := isPlain_iff.2 fun c hc =>
        (printable_of_mem_spellLines hc).imp_right (·.1)
      simp [Form.write, hmarks, hstart, hplain, -List.contains_eq_mem]
  | literalLines =>
      have hplain : isPlain s := isPlain_iff.2 hsuits.1
      simp [Form.write, hmarks, hstart, hplain, -List.contains_eq_mem]

end SearchGateway.Toml
