import SearchGateway.Proofs.Toml.Quotation
import SearchGateway.Proofs.Toml.Word
import SearchGateway.Toml.Reader
import SearchGateway.Toml.Writer

/-!
# Documents are read as what was written

A statement is read back if its key and its value are (`readStatement?_writeStatement`), and so is
a document of such statements (`read?_write`). The values that are read back are texts, numbers that
have a place in 64 bits, truth values and arrays of such values.
-/

namespace SearchGateway.Toml

variable {c : Char} {s rest front : List Char} {part : String} {path : List String}
  {limit fuel depth : Nat} {v item : Value} {items : List Value} {statement : Statement}
  {statements : List Statement}

/-! ## Keys -/

/-- A key begins with such a character. -/
def IsKeyStart (c : Char) : Prop :=
  isBare c ∨ c = '"' ∨ c = '\''

instance : Decidable (IsKeyStart c) :=
  inferInstanceAs (Decidable (_ ∨ _))

theorem IsKeyStart.ne {mark : Char} (h : IsKeyStart c) (hmark : ¬ IsKeyStart mark) : c ≠ mark :=
  fun heq => hmark (heq ▸ h)

theorem IsKeyStart.isGap (h : IsKeyStart c) : isGap c = false := by
  have hspace : c ≠ ' ' := h.ne (by decide)
  have htab : c ≠ '\t' := h.ne (by decide)
  simp [Toml.isGap, hspace, htab]

theorem Form.exists_write_cons (form : Form) (s : List Char) :
    ∃ c front, form.write s = c :: front ∧ (c = '"' ∨ c = '\'') := by
  cases form with
  | text => exact ⟨'"', _, rfl, .inl rfl⟩
  | literal => exact ⟨'\'', _, rfl, .inr rfl⟩
  | lines => exact ⟨'"', _, rfl, .inl rfl⟩
  | literalLines => exact ⟨'\'', _, rfl, .inr rfl⟩

theorem exists_writeKey_cons (s : List Char) :
    ∃ c front, writeKey s = c :: front ∧ IsKeyStart c := by
  unfold writeKey
  split
  · rename_i hbare
    simp only [Bool.and_eq_true, Bool.not_eq_true', List.isEmpty_eq_false_iff,
      List.all_eq_true] at hbare
    obtain ⟨c, s, rfl⟩ := List.exists_cons_of_ne_nil hbare.1
    exact ⟨c, s, rfl, .inl (hbare.2 c List.mem_cons_self)⟩
  · obtain ⟨c, front, hwrite, hc⟩ := (Form.ofKey s).exists_write_cons s
    exact ⟨c, front, hwrite, .inr hc⟩

/-- A part of a key is read back if no character of a bare key follows. -/
theorem readPart?_writeKey (hrest : ∀ c ∈ rest.head?, isBare c = false) :
    readPart? (writeKey s ++ rest) = some (String.ofList s, rest) := by
  unfold writeKey
  split
  · rename_i hbare
    simp only [Bool.and_eq_true, Bool.not_eq_true', List.isEmpty_eq_false_iff,
      List.all_eq_true] at hbare
    obtain ⟨hne, hbare⟩ := hbare
    have hmark {mark : Char} {others : List Char} (h : s ++ rest = mark :: others) :
        isBare mark := by
      obtain ⟨c, s, rfl⟩ := List.exists_cons_of_ne_nil hne
      exact (List.cons.inj h).1 ▸ hbare c List.mem_cons_self
    unfold readPart?
    split
    · rename_i heq
      exact absurd (hmark heq) (by decide)
    · rename_i heq
      exact absurd (hmark heq) (by decide)
    · simp [Text.takeWhile_append_of_head hbare hrest, Text.dropWhile_append_of_head hbare hrest,
        hne]
  · have hform : Form.ofKey s = .text ∨ Form.ofKey s = .literal := by
      unfold Form.ofKey
      split
      · exact .inr rfl
      · exact .inl rfl
    have hquoted := readQuoted?_write rest hform (Form.suits_ofKey s)
    obtain ⟨c, front, hwrite, hc⟩ := (Form.ofKey s).exists_write_cons s
    rw [← hquoted, hwrite]
    rcases hc with rfl | rfl <;> rfl

theorem dropGap_of_head (h : ∀ c ∈ s.head?, isGap c = false) : dropGap s = s := by
  cases s with
  | nil => rfl
  | cons c s => simp [dropGap, h c rfl]

theorem exists_writePath_cons (hpath : path ≠ []) :
    ∃ c front, writePath path = c :: front ∧ IsKeyStart c := by
  obtain ⟨part, path, rfl⟩ := List.exists_cons_of_ne_nil hpath
  obtain ⟨c, front, hwrite, hc⟩ := exists_writeKey_cons part.toList
  cases path with
  | nil => exact ⟨c, front, by simp [writePath, hwrite], hc⟩
  | cons next path =>
      refine ⟨c, front ++ '.' :: writePath (next :: path), ?_, hc⟩
      simp [writePath, List.intercalate_cons_cons, hwrite]

/-- Something that cannot be part of a key follows it, perhaps after a gap. -/
structure EndsKey (rest : List Char) : Prop where
  bare : ∀ c ∈ rest.head?, isBare c = false
  dot : ∀ c ∈ (dropGap rest).head?, c ≠ '.'

/-- A key is read back if it does not have too many parts. -/
theorem readKey?_writePath (hpath : path ≠ []) (hlimit : path.length ≤ limit)
    (hrest : EndsKey rest) :
    readKey? limit (writePath path ++ rest) = some (path, dropGap rest) := by
  induction path generalizing limit with
  | nil => exact absurd rfl hpath
  | cons part path ih =>
      obtain ⟨limit, rfl⟩ := Nat.exists_eq_add_of_le' (Nat.le_trans (Nat.le_add_left 1 _) hlimit)
      cases path with
      | nil =>
          have hwrite : writePath [part] ++ rest = writeKey part.toList ++ rest := by
            simp [writePath]
          rw [hwrite, readKey?, readPart?_writeKey hrest.bare]
          simp only [Option.bind_eq_bind, Option.bind_some, String.ofList_toList]
          split
          · rename_i heq
            exact absurd rfl (hrest.dot '.' (by simp [heq]))
          · rfl
      | cons next path =>
          obtain ⟨c, front, hfront, hc⟩ := exists_writePath_cons (List.cons_ne_nil next path)
          have hwrite : writePath (part :: next :: path) ++ rest =
              writeKey part.toList ++ '.' :: (writePath (next :: path) ++ rest) := by
            simp [writePath, List.intercalate_cons_cons]
          have hgap : dropGap (writePath (next :: path) ++ rest) =
              writePath (next :: path) ++ rest :=
            dropGap_of_head (by simpa [hfront] using hc.isGap)
          have hdot : dropGap ('.' :: (writePath (next :: path) ++ rest)) =
              '.' :: (writePath (next :: path) ++ rest) :=
            dropGap_of_head (by simp [isGap])
          rw [hwrite, readKey?, readPart?_writeKey (by simp; decide)]
          simp [hdot, hgap, ih (List.cons_ne_nil next path) (Nat.le_of_succ_le_succ hlimit)]

theorem readPath?_writePath (hpath : path ≠ []) (hlimit : path.length < maxDepth)
    (hrest : EndsKey rest) : readPath? (writePath path ++ rest) = some (path, dropGap rest) :=
  readKey?_writePath hpath (Nat.le_sub_one_of_lt hlimit) hrest

/-! ## Values -/

/-- What may stand behind a value. -/
def EndsValue (rest : List Char) : Prop :=
  ∀ c ∈ rest.head?, c = '\n' ∨ c = ']' ∨ c = ','

/-- A character that is dropped before a value, or ends an array. -/
def IsVoid (c : Char) : Prop :=
  isGap c ∨ c = '\n' ∨ c = '#' ∨ c = ']'

instance : Decidable (IsVoid c) :=
  inferInstanceAs (Decidable (_ ∨ _))

/-- A value is read back where `depth` values may still be nested. -/
structure IsReadBack (depth : Nat) (v : Value) : Prop where
  start : ∃ c front, writeValue v = c :: front ∧ ¬ IsVoid c
  plain : isPlain (writeValue v)
  read : ∀ fuel rest, (writeValue v).length < fuel → EndsValue rest →
    readValue? fuel depth (writeValue v ++ rest) = some (v, rest)

theorem EndsValue.quotation (h : EndsValue rest) : ∀ c ∈ rest.head?, c ≠ '"' ∧ c ≠ '\'' := by
  intro c hc
  rcases h c hc with rfl | rfl | rfl <;> decide

theorem EndsValue.word (h : EndsValue rest) : ∀ c ∈ rest.head?, isWordChar c = false ∧ c ≠ ' ' := by
  intro c hc
  rcases h c hc with rfl | rfl | rfl <;> decide

theorem endsValue_cons {mark : Char} (h : mark = '\n' ∨ mark = ']' ∨ mark = ',') :
    EndsValue (mark :: rest) := by
  rintro c hc
  obtain rfl := Option.mem_some_iff.1 hc
  exact h

theorem isReadBack_text (s : String) : IsReadBack depth (.text s) where
  start := by
    obtain ⟨c, front, hwrite, hc⟩ := (Form.ofValue s.toList).exists_write_cons s.toList
    refine ⟨c, front, hwrite, ?_⟩
    rcases hc with rfl | rfl <;> decide
  plain := isPlain_write (Form.suits_ofValue s.toList)
  read fuel rest hfuel hrest := by
    obtain ⟨fuel, rfl⟩ := Nat.exists_eq_add_of_le' (Nat.succ_le_of_lt (Nat.zero_lt_of_lt hfuel))
    obtain ⟨c, front, hwrite, hc⟩ := (Form.ofValue s.toList).exists_write_cons s.toList
    have hread := readText?_writeText (s := s.toList) hrest.quotation
    rw [String.ofList_toList, writeText, hwrite] at hread
    rw [writeValue, writeText, hwrite, List.cons_append] at *
    rcases hc with rfl | rfl <;> simp [readValue?, hread]

theorem readValue?_word (hc : isWordChar c) :
    readValue? (fuel + 1) depth (c :: rest) = readWord? (c :: rest) := by
  have hne {mark : Char} (hmark : isWordChar mark = false) : c ≠ mark := by
    rintro rfl
    simp [hc] at hmark
  rw [readValue?]
  all_goals exact fun _ heq => hne (by decide) (List.cons.inj heq).1

theorem not_isVoid_of_isWordChar (h : isWordChar c) : ¬ IsVoid c := by
  rintro (hgap | rfl | rfl | rfl)
  · have hmark : c = ' ' ∨ c = '\t' := by simpa [isGap] using hgap
    rcases hmark with rfl | rfl <;> exact absurd h (by decide)
  all_goals exact absurd h (by decide)

theorem printable_of_isWordChar (h : isWordChar c) : isPrintable c := by
  have hascii : ∀ n < 0x80, isWordChar (Char.ofNat n) → isPrintable (Char.ofNat n) := by
    decide +kernel
  by_cases hlow : c.toNat < 0x80
  · simpa [h] using hascii c.toNat hlow
  · simp only [isPrintable, Bool.or_eq_true, Bool.and_eq_true, decide_eq_true_eq, bne_iff_ne]
    omega

/-- A value that is a word is read back if the word is. -/
theorem isReadBack_word (hne : writeValue v ≠ []) (hword : ∀ c ∈ writeValue v, isWordChar c)
    (hread : ∀ rest, EndsValue rest → readWord? (writeValue v ++ rest) = some (v, rest)) :
    IsReadBack depth v where
  start := by
    obtain ⟨c, front, hwrite⟩ := List.exists_cons_of_ne_nil hne
    refine ⟨c, front, hwrite, fun hvoid => ?_⟩
    exact not_isVoid_of_isWordChar (hword c (by simp [hwrite])) hvoid
  plain := isPlain_iff.2 fun c hc => .inl (printable_of_isWordChar (hword c hc))
  read fuel rest hfuel hrest := by
    obtain ⟨fuel, rfl⟩ := Nat.exists_eq_add_of_le' (Nat.succ_le_of_lt (Nat.zero_lt_of_lt hfuel))
    obtain ⟨c, front, hwrite⟩ := List.exists_cons_of_ne_nil hne
    have hc : isWordChar c := hword c (by simp [hwrite])
    rw [← hread rest hrest, hwrite, List.cons_append, readValue?_word hc]

theorem isReadBack_nat {n : Nat} (hn : n < Nat.pow 2 63) : IsReadBack depth (.integer n) := by
  have htext : writeValue (.integer n) = Nat.toDigits 10 n := Nat.toList_repr
  refine isReadBack_word ?_ ?_ fun rest hrest => readWord?_nat hn hrest.word
  · rw [htext]
    exact Nat.toDigits_ne_nil
  · rw [htext]
    intro c hc
    simp [isWordChar, Char.isAlphanum, Nat.isDigit_of_mem_toDigits (by decide) (by decide) hc]

theorem isReadBack_truth (b : Bool) : IsReadBack depth (.truth b) := by
  refine isReadBack_word ?_ (List.all_eq_true.1 ?_) fun rest hrest =>
    readWord?_truth b hrest.word
  all_goals cases b <;> decide

/-! ### Arrays -/

theorem dropVoid_of_start (hc : ¬ IsVoid c) : dropVoid false (c :: rest) = c :: rest := by
  simp only [IsVoid, not_or, Bool.not_eq_true] at hc
  simp [dropVoid, hc]

theorem readItems?_last {cs : List Char} (hc : ¬ IsVoid c)
    (hread : readValue? fuel depth (c :: cs) = some (item, ']' :: rest)) :
    readItems? (fuel + 1) depth (c :: cs) = some ([item], rest) := by
  have hvoid : dropVoid false (']' :: rest) = ']' :: rest := by simp [dropVoid, isGap]
  rw [readItems?]
  · simp [hread, hvoid]
  · intro tail heq
    exact hc (.inr (.inr (.inr (List.cons.inj heq).1)))

theorem readItems?_next {cs others : List Char} (hc : ¬ IsVoid c)
    (hread : readValue? fuel depth (c :: cs) = some (item, ',' :: others))
    (hitems : readItems? fuel depth (dropVoid false others) = some (items, rest)) :
    readItems? (fuel + 1) depth (c :: cs) = some (item :: items, rest) := by
  have hvoid : dropVoid false (',' :: others) = ',' :: others := by simp [dropVoid, isGap]
  rw [readItems?]
  · simp [hread, hvoid, hitems]
  · intro tail heq
    exact hc (.inr (.inr (.inr (List.cons.inj heq).1)))

/-- The items of an array that are written on lines of their own are read back. -/
theorem readItems?_writeItems (hitems : ∀ item ∈ items, IsReadBack depth item)
    (hfuel : (writeItems items).length < fuel) :
    readItems? fuel depth (dropVoid false (writeItems items ++ ']' :: rest)) =
      some (items, rest) := by
  induction items generalizing fuel with
  | nil =>
      obtain ⟨fuel, rfl⟩ := Nat.exists_eq_add_of_le' (Nat.succ_le_of_lt (Nat.zero_lt_of_lt hfuel))
      simp [writeItems, dropVoid, isGap, readItems?]
  | cons item items ih =>
      obtain ⟨hitem, hitems⟩ := List.forall_mem_cons.1 hitems
      obtain ⟨c, front, hwrite, hc⟩ := hitem.start
      obtain ⟨fuel, rfl⟩ := Nat.exists_eq_add_of_le' (Nat.succ_le_of_lt (Nat.zero_lt_of_lt hfuel))
      have hlength : (writeItems (item :: items)).length =
          (writeValue item).length + (writeItems items).length + 6 := by
        simp [writeItems]
        omega
      have hdrop : dropVoid false (writeItems (item :: items) ++ ']' :: rest) =
          c :: (front ++ ',' :: '\n' :: (writeItems items ++ ']' :: rest)) := by
        rw [← dropVoid_of_start hc]
        simp [writeItems, hwrite, dropVoid, isGap]
      have hread := hitem.read fuel (',' :: '\n' :: (writeItems items ++ ']' :: rest)) (by omega)
        (endsValue_cons (.inr (.inr rfl)))
      rw [hwrite] at hread
      rw [hdrop]
      refine readItems?_next hc hread ?_
      rw [dropVoid, if_pos rfl]
      exact ih hitems (by omega)

theorem isPlain_writeItems (hitems : ∀ item ∈ items, IsReadBack depth item) :
    isPlain (writeItems items) := by
  have hmarks : isPlain "    ".toList ∧ isPrintable ',' := by decide
  induction items with
  | nil => rfl
  | cons item items ih =>
      obtain ⟨hitem, hitems⟩ := List.forall_mem_cons.1 hitems
      simp only [writeItems, isPlain_append, isPlain_cons, hmarks, hitem.plain, ih hitems,
        beq_self_eq_true, Bool.or_true, Bool.true_or, Bool.and_self]

/-- What is written between the brackets of an array is read as its items. -/
theorem exists_writeValue_array (hitems : ∀ item ∈ items, IsReadBack depth item) :
    ∃ inner, writeValue (.array items) = '[' :: (inner ++ [']']) ∧
      isPlain inner ∧ ∀ fuel rest, inner.length + 1 < fuel →
        readItems? fuel depth (dropVoid false (inner ++ ']' :: rest)) = some (items, rest) := by
  match items with
  | [] =>
      refine ⟨[], rfl, rfl, fun fuel rest hfuel => ?_⟩
      have hnone : ∀ item ∈ ([] : List Value), IsReadBack depth item := by simp
      exact readItems?_writeItems hnone (by simp [writeItems]; omega)
  | [item] =>
      have hitem : IsReadBack depth item := hitems item List.mem_cons_self
      refine ⟨writeValue item, rfl, hitem.plain, fun fuel rest hfuel => ?_⟩
      obtain ⟨fuel, rfl⟩ := Nat.exists_eq_add_of_le' (Nat.succ_le_of_lt (Nat.zero_lt_of_lt hfuel))
      obtain ⟨c, front, hwrite, hc⟩ := hitem.start
      have hread := hitem.read fuel (']' :: rest) (by omega) (endsValue_cons (.inr (.inl rfl)))
      rw [hwrite] at hread ⊢
      rw [List.cons_append, dropVoid_of_start hc]
      exact readItems?_last hc hread
  | first :: second :: items =>
      refine ⟨'\n' :: writeItems (first :: second :: items), rfl, ?_, fun fuel rest hfuel => ?_⟩
      · simpa using isPlain_writeItems hitems
      · rw [List.cons_append, dropVoid, if_pos rfl]
        exact readItems?_writeItems hitems (by simp at hfuel; omega)

theorem isReadBack_array (hitems : ∀ item ∈ items, IsReadBack depth item) :
    IsReadBack (depth + 1) (.array items) := by
  obtain ⟨inner, hwrite, hplain, hread⟩ := exists_writeValue_array hitems
  refine ⟨⟨'[', _, hwrite, by decide⟩, ?_, fun fuel rest hfuel hrest => ?_⟩
  · have hbrackets : isPrintable '[' ∧ isPrintable ']' := by decide
    simp [hwrite, hbrackets, hplain]
  · obtain ⟨fuel, rfl⟩ := Nat.exists_eq_add_of_le' (Nat.succ_le_of_lt (Nat.zero_lt_of_lt hfuel))
    have hinner : inner.length + 1 < fuel := by
      simp [hwrite] at hfuel
      omega
    rw [hwrite, List.cons_append, List.append_assoc, List.singleton_append, readValue?]
    simp only [hread fuel rest hinner, Option.map_some]

/-! ## Statements -/

/-- A statement is read back: its key has not too many parts, and its value is read back. -/
def Statement.IsReadBack : Statement → Prop
  | .assign key value => key ≠ [] ∧ key.length < maxDepth ∧ Toml.IsReadBack (maxDepth - 1) value
  | .table path => path ≠ [] ∧ path.length < maxDepth
  | .tableItem path => path ≠ [] ∧ path.length < maxDepth

theorem endsKey_assign : EndsKey (" = ".toList ++ rest) where
  bare := by simp; decide
  dot := by simp [dropGap, isGap]

theorem endsKey_header : EndsKey (']' :: rest) where
  bare := by simp; decide
  dot := by simp [dropGap, isGap]

theorem readHeader?_writePath {brackets : Nat} (hbrackets : 0 < brackets) (rest : List Char)
    (hpath : path ≠ []) (hlimit : path.length < maxDepth) :
    readHeader? brackets (writePath path ++ (List.replicate brackets ']' ++ rest)) =
      some (path, rest) := by
  obtain ⟨c, front, hwrite, hc⟩ := exists_writePath_cons hpath
  have hstart : ∀ c ∈ (writePath path ++ (List.replicate brackets ']' ++ rest)).head?,
      isGap c = false := by
    simpa [hwrite] using hc.isGap
  obtain ⟨others, hothers⟩ : ∃ others, List.replicate brackets ']' ++ rest = ']' :: others := by
    obtain ⟨brackets, rfl⟩ := Nat.exists_eq_add_of_le' hbrackets
    exact ⟨_, rfl⟩
  have hends : EndsKey (List.replicate brackets ']' ++ rest) := hothers ▸ endsKey_header
  have hgap : dropGap (List.replicate brackets ']' ++ rest) = List.replicate brackets ']' ++ rest :=
    dropGap_of_head (by simp [hothers, isGap])
  rw [readHeader?, dropGap_of_head hstart, readPath?_writePath hpath hlimit hends, hgap]
  simp

theorem exists_writeStatement_cons (h : statement.IsReadBack) :
    ∃ c front, writeStatement statement = c :: front ∧ ¬ IsVoid c ∧ c ≠ '\uFEFF' := by
  cases statement with
  | assign key value =>
      obtain ⟨c, front, hwrite, hc⟩ := exists_writePath_cons h.1
      refine ⟨c, front ++ (" = ".toList ++ (writeValue value ++ ['\n'])), by
        simp [writeStatement, hwrite], ?_, hc.ne (by decide)⟩
      rintro (hgap | rfl | rfl | rfl)
      · simp [hc.isGap] at hgap
      all_goals exact absurd hc (by decide)
  | table path => exact ⟨'[', _, rfl, by decide, by decide⟩
  | tableItem path => exact ⟨'[', _, rfl, by decide, by decide⟩

/-- A statement is read up to the end of its line. -/
theorem readStatement?_writeStatement (h : statement.IsReadBack) (rest : List Char) :
    readStatement? (writeStatement statement ++ rest) = some (statement, '\n' :: rest) := by
  cases statement with
  | assign key value =>
      obtain ⟨hkey, hlimit, hvalue⟩ := h
      obtain ⟨c, front, hwrite, hc⟩ := exists_writePath_cons hkey
      obtain ⟨d, back, hback, hd⟩ := hvalue.start
      have htext : writeStatement (.assign key value) ++ rest =
          writePath key ++ (" = ".toList ++ (writeValue value ++ '\n' :: rest)) := by
        simp [writeStatement]
      have hgap : dropGap (" = ".toList ++ (writeValue value ++ '\n' :: rest)) =
          '=' :: ' ' :: (writeValue value ++ '\n' :: rest) := by
        simp [dropGap, isGap]
      have hbegin : dropGap (' ' :: (writeValue value ++ '\n' :: rest)) =
          writeValue value ++ '\n' :: rest := by
        have hstart : ∀ c ∈ (writeValue value ++ '\n' :: rest).head?, isGap c = false := by
          simpa [hback] using mt Or.inl hd
        exact (List.dropWhile_cons_of_pos (by decide)).trans (dropGap_of_head hstart)
      have hread := hvalue.read (2 * (writeValue value ++ '\n' :: rest).length + 1) ('\n' :: rest)
        (by simp; omega) (endsValue_cons (.inl rfl))
      have hends : EndsKey (" = ".toList ++ (writeValue value ++ '\n' :: rest)) := endsKey_assign
      have hpath := readPath?_writePath hkey hlimit hends
      have hfirst {mark : Char} {others : List Char}
          (heq : writePath key ++ (" = ".toList ++ (writeValue value ++ '\n' :: rest)) =
            mark :: others) : c = mark := by
        rw [hwrite] at heq
        exact (List.cons.inj heq).1
      rw [htext, readStatement?]
      · simp only [hpath, hgap, hbegin, hread, Option.bind_eq_bind, Option.bind_some]
      · intro others heq
        exact hc.ne (by decide) (hfirst heq)
      · intro others heq
        exact hc.ne (by decide) (hfirst heq)
  | table path =>
      obtain ⟨c, front, hwrite, hc⟩ := exists_writePath_cons h.1
      have hheader := readHeader?_writePath Nat.one_pos ('\n' :: rest) h.1 h.2
      have htext : writeStatement (.table path) ++ rest =
          '[' :: (writePath path ++ (List.replicate 1 ']' ++ '\n' :: rest)) := by
        simp [writeStatement]
      rw [htext, readStatement?, hheader]
      · rfl
      · intro others heq
        rw [hwrite] at heq
        exact hc.ne (by decide) (List.cons.inj heq).1
  | tableItem path =>
      have hheader := readHeader?_writePath Nat.two_pos ('\n' :: rest) h.1 h.2
      have htext : writeStatement (.tableItem path) ++ rest =
          '[' :: '[' :: (writePath path ++ (List.replicate 2 ']' ++ '\n' :: rest)) := by
        simp [writeStatement]
      rw [htext, readStatement?, hheader]
      rfl

/-! ## Documents -/

theorem afterLine?_break : afterLine? ('\n' :: rest) = some rest := by
  simp [afterLine?, dropGap, isGap]

theorem readStatements?_cons {cs : List Char} (h : statement.IsReadBack)
    (hcs : dropVoid false cs = writeStatement statement ++ rest) :
    readStatements? (fuel + 1) cs = (readStatements? fuel rest).map (statement :: ·) := by
  obtain ⟨c, front, hwrite, -⟩ := exists_writeStatement_cons h
  have hread := readStatement?_writeStatement h rest
  rw [readStatements?, hcs]
  rw [hwrite] at hread ⊢
  simp only [List.cons_append] at hread ⊢
  simp only [hread, afterLine?_break, Option.bind_eq_bind, Option.bind_some, Option.map_eq_bind]
  rfl

theorem dropVoid_writeStatement (h : statement.IsReadBack) (rest : List Char) :
    dropVoid false (writeStatement statement ++ rest) = writeStatement statement ++ rest := by
  obtain ⟨c, front, hwrite, hc, -⟩ := exists_writeStatement_cons h
  rw [hwrite]
  exact dropVoid_of_start hc

theorem readStatements?_writeRest (h : ∀ statement ∈ statements, statement.IsReadBack)
    (hfuel : statements.length < fuel) :
    readStatements? fuel (writeRest statements) = some statements := by
  induction statements generalizing fuel with
  | nil =>
      obtain ⟨fuel, rfl⟩ := Nat.exists_eq_add_of_le' (Nat.succ_le_of_lt hfuel)
      rfl
  | cons statement statements ih =>
      obtain ⟨fuel, rfl⟩ := Nat.exists_eq_add_of_le' (Nat.succ_le_of_lt (Nat.zero_lt_of_lt hfuel))
      obtain ⟨hstatement, hstatements⟩ := List.forall_mem_cons.1 h
      have hvoid : dropVoid false (writeRest (statement :: statements)) =
          writeStatement statement ++ writeRest statements := by
        rw [writeRest, List.flatMap_cons, ← writeRest, List.append_assoc]
        split
        · rw [List.singleton_append, dropVoid, if_pos rfl]
          exact dropVoid_writeStatement hstatement _
        · exact dropVoid_writeStatement hstatement _
      rw [readStatements?_cons hstatement hvoid, ih hstatements (by simpa using hfuel),
        Option.map_some]

/-! ### Controls -/

theorem isPlain_of_isBare (h : ∀ c ∈ s, isBare c) : isPlain s := by
  refine isPlain_iff.2 fun c hc => .inl (printable_of_isWordChar ?_)
  have hbare := h c hc
  simp only [isBare, Bool.or_eq_true] at hbare
  rcases hbare with (hbare | hbare) | hbare <;> simp [isWordChar, hbare]

theorem isPlain_writeKey : isPlain (writeKey s) := by
  unfold writeKey
  split
  · rename_i hbare
    simp only [Bool.and_eq_true, List.all_eq_true] at hbare
    exact isPlain_of_isBare hbare.2
  · exact isPlain_write (Form.suits_ofKey s)

theorem isPlain_writePath : isPlain (writePath path) := by
  have hdot : isPrintable '.' := by decide
  induction path with
  | nil => rfl
  | cons part path ih =>
      cases path with
      | nil => simpa [writePath] using isPlain_writeKey
      | cons next path =>
          simp only [writePath, List.map_cons, List.intercalate_cons_cons, isPlain_append,
            isPlain_cons, isPlain_nil] at ih ⊢
          simp [ih, hdot, isPlain_writeKey]

theorem isPlain_writeStatement (h : statement.IsReadBack) : isPlain (writeStatement statement) := by
  have hmarks : ∀ c ∈ [' ', '=', '[', ']'], isPrintable c :=
    List.all_eq_true.1 (by decide)
  cases statement with
  | assign key value => simp [writeStatement, isPlain_writePath, h.2.2.plain, hmarks]
  | table path => simp [writeStatement, isPlain_writePath, hmarks]
  | tableItem path => simp [writeStatement, isPlain_writePath, hmarks]

/-- A document has no other control than line breaks. -/
theorem isPlain_write_statements (h : ∀ statement ∈ statements, statement.IsReadBack) :
    isPlain (write statements).toList := by
  have hrest {statements : List Statement} (h : ∀ statement ∈ statements, statement.IsReadBack) :
      isPlain (writeRest statements) := by
    induction statements with
    | nil => rfl
    | cons statement statements ih =>
        obtain ⟨hstatement, hstatements⟩ := List.forall_mem_cons.1 h
        have hbreak : isPlain (if statement.isHeader then ['\n'] else []) := by split <;> rfl
        rw [writeRest, List.flatMap_cons, ← writeRest, isPlain_append, isPlain_append, hbreak,
          isPlain_writeStatement hstatement, ih hstatements]
        rfl
  cases statements with
  | nil => rfl
  | cons statement statements =>
      obtain ⟨hstatement, hstatements⟩ := List.forall_mem_cons.1 h
      rw [write, String.toList_ofList, isPlain_append, isPlain_writeStatement hstatement,
        hrest hstatements]
      rfl

theorem plainBreaks_of_not_mem (h : '\r' ∉ s) : plainBreaks s = s := by
  induction s with
  | nil => rfl
  | cons c s ih =>
      obtain ⟨hc, hs⟩ := not_or.1 (mt List.mem_cons.2 h)
      rw [plainBreaks, ih hs]
      exact fun _ heq => absurd heq.symm hc

theorem length_le_writeRest (statements : List Statement) :
    statements.length ≤ (writeRest statements).length := by
  have hone (statement : Statement) : 1 ≤ (writeStatement statement).length := by
    cases statement with
    | assign key value =>
        simp only [writeStatement, List.length_append, List.length_singleton]
        omega
    | table path | tableItem path => simp [writeStatement]
  induction statements with
  | nil => exact Nat.le_refl _
  | cons statement statements ih =>
      have hstatement := hone statement
      rw [writeRest, List.flatMap_cons, ← writeRest, List.length_append, List.length_append,
        List.length_cons]
      omega

/-- A document of statements that are read back is read back. -/
theorem read?_write (h : ∀ statement ∈ statements, statement.IsReadBack) :
    read? (write statements) = some statements := by
  have hreturn : '\r' ∉ (write statements).toList := fun hmem =>
    (isPlain_iff.1 (isPlain_write_statements h) '\r' hmem).elim (by decide) (by decide)
  cases statements with
  | nil => rfl
  | cons statement statements =>
      obtain ⟨hstatement, hstatements⟩ := List.forall_mem_cons.1 h
      obtain ⟨c, front, hwrite, -, hmark⟩ := exists_writeStatement_cons hstatement
      have hlength := length_le_writeRest statements
      have htext : (write (statement :: statements)).toList =
          c :: (front ++ writeRest statements) := by
        simp [write, hwrite]
      have hdrop : dropMark (write (statement :: statements)).toList =
          (write (statement :: statements)).toList := by
        rw [htext, dropMark]
        intro others heq
        exact hmark (List.cons.inj heq).1
      have hvoid := dropVoid_writeStatement hstatement (writeRest statements)
      rw [read?, hdrop, plainBreaks_of_not_mem hreturn, htext, ← List.cons_append, ← hwrite,
        readStatements?_cons hstatement hvoid, readStatements?_writeRest hstatements,
        Option.map_some]
      simp [hwrite]
      omega

end SearchGateway.Toml
