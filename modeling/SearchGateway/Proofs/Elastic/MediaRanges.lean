import SearchGateway.Proofs.Elastic.MediaType

/-!
# Lists of media ranges

A list of ranges with commas between them is read as if it were one range: what stands before the
first semicolon is the essence, and what stands between two semicolons is a parameter, even if a
comma and the essence of the next range are part of it. So the list is judged by its first range and
by the parameters of all (`refused_joinWith_iff`).
-/

namespace SearchGateway.Elastic

/-- What a range is before its parameters, in normal form. -/
def essenceOf (range : String) : String :=
  (mediaParts range).headD ""

/-- The parameters of a range, in normal form. -/
def parametersOf (range : String) : List String :=
  (mediaParts range).tail

/-- A range is refused when it is read on its own. -/
def Refused (range : String) : Prop :=
  ∃ e, plainType range = .error e

/-- A range is one of the vendor's. -/
def IsVendor (range : String) : Prop :=
  Begins vendorStart (essenceOf range)

/-- The essence of a range stands for a plain type. -/
def NamesPlainType (range : String) : Prop :=
  ∃ t : PlainType, essenceOf range = vendorStart ++ t.subtype

/-- A parameter asks for a version that is not served. -/
def IsUnserved (parameter : String) : Prop :=
  ∃ version, parameter = versionStart ++ version ∧ version ∉ servedVersions

/-- A range asks for a version that is not served. -/
def AsksUnserved (range : String) : Prop :=
  ∃ parameter ∈ parametersOf range, IsUnserved parameter

/-- The last parameter of a range asks for a version. -/
def EndsInVersion (range : String) : Prop :=
  ∃ parameter ∈ (parametersOf range).getLast?, Begins versionStart parameter

/-- A list passes as one range of the vendor. Its essence ends at a semicolon, or with the list, and
no version ends at a comma, which would be taken for a part of the version. -/
structure PassesAsOne (first : String) (rest : List String) : Prop where
  parameters : rest ≠ [] → parametersOf first ≠ []
  plain : NamesPlainType first
  served : ∀ range ∈ first :: rest, ¬ AsksUnserved range
  apart : ∀ range ∈ (first :: rest).dropLast, ¬ EndsInVersion range

variable {start text range first next : String} {rest : List String}

/-- A range is refused when it is read on its own exactly if it is one of the vendor's and does not
stand for a plain type in a version that is served. -/
theorem refused_iff :
    Refused range ↔ IsVendor range ∧ ¬ (NamesPlainType range ∧ ¬ AsksUnserved range) := by
  have hserved : ¬ AsksUnserved range ↔
      ∀ version, versionStart ++ version ∈ (mediaParts range).tail → version ∈ servedVersions := by
    simp only [AsksUnserved, IsUnserved, parametersOf, not_exists, not_and, not_not]
    exact ⟨fun h version hmem => h _ hmem version rfl, fun h _ hmem version hversion =>
      h version (hversion ▸ hmem)⟩
  have hplain : (∃ t, plainType range = .ok (some t)) ↔
      NamesPlainType range ∧ ¬ AsksUnserved range := by
    simp only [plainType_eq_some_iff, exists_and_right, hserved]
    rfl
  have hother : plainType range = .ok none ↔ ¬ IsVendor range := plainType_eq_none_iff
  rw [← hplain, ← not_not (a := IsVendor range), ← hother, Refused]
  rcases plainType range with e | (_ | t) <;> simp

/-! ## Texts that begin with a word -/

/-- A word that no blank is part of at its ends, and no comma. -/
structure IsWord (word : List Char) : Prop where
  ne_nil : word ≠ []
  first : ∀ c ∈ word.head?, Text.isBlank c = false
  last : ∀ c ∈ word.getLast?, Text.isBlank c = false
  comma : ',' ∉ word

theorem IsWord.of_ends {word : List Char} {c d : Char} (hc : word.head? = some c)
    (hd : word.getLast? = some d) (hfirst : Text.isBlank c = false) (hlast : Text.isBlank d = false)
    (hcomma : ',' ∉ word) : IsWord word where
  ne_nil hnil := by simp [hnil] at hc
  first e he := Option.some.inj (hc.symm.trans he) ▸ hfirst
  last e he := Option.some.inj (hd.symm.trans he) ▸ hlast
  comma := hcomma

theorem isWord_vendorStart : IsWord vendorStart.toList := by
  have hends : vendorStart.toList.head? = some 'a' ∧ vendorStart.toList.getLast? = some '+' := by
    decide
  exact .of_ends hends.1 hends.2 (by decide) (by decide) (by decide)

theorem isWord_versionStart : IsWord versionStart.toList := by
  have hends : versionStart.toList.head? = some 'c' ∧ versionStart.toList.getLast? = some '=' := by
    decide
  exact .of_ends hends.1 hends.2 (by decide) (by decide) (by decide)

theorem toList_normalPart (text : String) :
    (normalPart text).toList = Text.trim (text.toList.map Char.toLower) := by
  rw [normalPart, ← Text.trimmed_lowered, Text.trimmed, Text.lowered, String.toList_ofList,
    String.toList_ofList]

theorem begins_normalPart_iff (hword : IsWord start.toList) :
    Begins start (normalPart text) ↔ ∃ front rest,
      text.toList.map Char.toLower = front ++ (start.toList ++ rest) ∧
        ∀ c ∈ front, Text.isBlank c := by
  rw [← Text.exists_trim_eq_append_iff hword.ne_nil hword.first hword.last, ← toList_normalPart]
  simp only [Begins, ← String.toList_inj, String.toList_append]
  constructor
  · rintro ⟨rest, h⟩
    exact ⟨rest.toList, h⟩
  · rintro ⟨rest, h⟩
    exact ⟨String.ofList rest, by simpa using h⟩

theorem begins_normalPart_append_iff (hword : IsWord start.toList) (next : String) :
    Begins start (normalPart (first ++ "," ++ next)) ↔ Begins start (normalPart first) := by
  have hcomma : (",".toList.map Char.toLower) = [','] := by decide
  simp only [begins_normalPart_iff hword, String.toList_append, List.map_append, hcomma,
    List.append_assoc, List.singleton_append]
  constructor
  · rintro ⟨front, rest, hfront, hblank⟩
    rw [← List.append_assoc, List.append_eq_append_iff] at hfront
    rcases hfront with ⟨part, hpart, hrest⟩ | ⟨part, hpart, -⟩
    · cases part with
      | nil => exact ⟨front, [], by simpa using hpart.symm, hblank⟩
      | cons c part =>
          -- The word would hold the comma, or the blanks before it would.
          obtain ⟨rfl, -⟩ := List.cons.inj hrest
          have hmem : ',' ∈ front ++ start.toList := by simp [hpart]
          rcases List.mem_append.1 hmem with hmem | hmem
          · exact absurd (hblank _ hmem) (by decide)
          · exact absurd hmem hword.comma
    · exact ⟨front, part, by simpa using hpart, hblank⟩
  · rintro ⟨front, rest, hfront, hblank⟩
    exact ⟨front, rest ++ ',' :: next.toList.map Char.toLower, by simp [hfront], hblank⟩

theorem comma_mem_normalPart (first next : String) :
    ',' ∈ (normalPart (first ++ "," ++ next)).toList := by
  rw [toList_normalPart]
  refine Text.mem_trim ?_ (by decide)
  simp only [String.toList_append, List.map_append, List.mem_append]
  exact .inl (.inr (by decide))

/-! ## Two ranges read as one -/

/-- The parts of two ranges with a comma between them. The last part of the first range and the
essence of the second one are one part. -/
theorem mediaParts_append (first next : String) : ∃ front last opening back,
    Text.splitAt ';' first = front ++ [last] ∧
      (mediaParts next).tail = back ∧
      mediaParts (first ++ "," ++ next) =
        front.map normalPart ++ normalPart (last ++ "," ++ opening) :: back := by
  obtain ⟨front, last, hfirst⟩ := (List.eq_nil_or_concat (Text.splitAt ';' first)).resolve_left
    (by simp [Text.splitAt, Text.split_ne_nil])
  obtain ⟨opening, back, hnext⟩ := List.exists_cons_of_ne_nil
    (show Text.splitAt ';' next ≠ [] by simp [Text.splitAt, Text.split_ne_nil])
  rw [List.concat_eq_append] at hfirst
  have hcomma : Text.splitAt ';' "," = [","] := by decide
  refine ⟨front, last, opening, back.map normalPart, hfirst, by simp [mediaParts_eq, hnext], ?_⟩
  rw [mediaParts_eq, Text.splitAt_append (Text.splitAt_append hfirst hcomma) hnext]
  simp

theorem isUnserved_append_iff :
    IsUnserved (normalPart (first ++ "," ++ next)) ↔ Begins versionStart (normalPart first) := by
  rw [← begins_normalPart_append_iff isWord_versionStart next]
  constructor
  · rintro ⟨version, hversion, -⟩
    exact ⟨version, hversion⟩
  · rintro ⟨version, hversion⟩
    refine ⟨version, hversion, fun hserved => ?_⟩
    have hmem := comma_mem_normalPart first next
    have hplain : ∀ version ∈ servedVersions, ',' ∉ (versionStart ++ version).toList := by
      decide +kernel
    exact hplain version hserved (hversion ▸ hmem)

theorem isVendor_append : IsVendor (first ++ "," ++ next) ↔ IsVendor first := by
  obtain ⟨front, last, opening, back, hfirst, -, hparts⟩ := mediaParts_append first next
  rw [IsVendor, IsVendor, essenceOf, essenceOf, hparts, mediaParts_eq, hfirst]
  cases front with
  | nil => simpa using begins_normalPart_append_iff isWord_vendorStart opening
  | cons essence front => simp

theorem namesPlainType_append : NamesPlainType (first ++ "," ++ next) ↔
    parametersOf first ≠ [] ∧ NamesPlainType first := by
  obtain ⟨front, last, opening, back, hfirst, -, hparts⟩ := mediaParts_append first next
  rw [NamesPlainType, NamesPlainType, essenceOf, essenceOf, parametersOf, hparts, mediaParts_eq,
    hfirst]
  cases front with
  | nil =>
      have hmem := comma_mem_normalPart last opening
      have hplain : ∀ t : PlainType, ',' ∉ (vendorStart ++ t.subtype).toList := by
        rintro (_ | _) <;> decide +kernel
      simp only [List.map_nil, List.nil_append, List.headD_cons, List.map_cons, List.tail_cons,
        ne_eq, not_true_eq_false, false_and, iff_false, not_exists]
      intro t hessence
      exact hplain t (hessence ▸ hmem)
  | cons essence front => simp

theorem asksUnserved_append : AsksUnserved (first ++ "," ++ next) ↔
    (AsksUnserved first ∨ EndsInVersion first) ∨ AsksUnserved next := by
  obtain ⟨front, last, opening, back, hfirst, hback, hparts⟩ := mediaParts_append first next
  have hversion : IsUnserved (normalPart last) → Begins versionStart (normalPart last) :=
    fun ⟨version, h, _⟩ => ⟨version, h⟩
  rw [AsksUnserved, AsksUnserved, AsksUnserved, EndsInVersion, parametersOf, parametersOf,
    parametersOf, hparts, hback, mediaParts_eq, hfirst]
  cases front with
  | nil => simp
  | cons essence front =>
      have hends : (∃ parameter ∈ (some (normalPart last) : Option String),
          Begins versionStart parameter) ↔ Begins versionStart (normalPart last) := by
        simp
      simp only [List.map_cons, List.map_append, List.map_nil, List.cons_append, List.tail_cons,
        List.mem_append, List.mem_cons, or_and_right, exists_or, exists_eq_left, List.not_mem_nil,
        or_false, isUnserved_append_iff, List.getLast?_append, List.getLast?_singleton,
        Option.some_or, hends]
      -- If the last parameter asks for a version that is not served, then it asks for a version.
      rw [or_assoc, or_assoc, ← or_assoc (a := IsUnserved _), or_iff_right_of_imp hversion]

/-! ## Lists of ranges -/

theorem isVendor_joinWith : IsVendor (Text.joinWith ',' (first :: rest)) ↔ IsVendor first := by
  cases rest with
  | nil => simp [Text.joinWith]
  | cons next rest =>
      rw [Text.joinWith_cons_cons]
      exact isVendor_append

theorem namesPlainType_joinWith : NamesPlainType (Text.joinWith ',' (first :: rest)) ↔
    (rest ≠ [] → parametersOf first ≠ []) ∧ NamesPlainType first := by
  cases rest with
  | nil => simp [Text.joinWith]
  | cons next rest =>
      rw [Text.joinWith_cons_cons]
      simpa using namesPlainType_append

/-- A list asks for a version that is not served if one of its ranges does, and for one with a comma
in it if a range other than the last one ends in a version. -/
theorem asksUnserved_joinWith : AsksUnserved (Text.joinWith ',' (first :: rest)) ↔
    (∃ range ∈ first :: rest, AsksUnserved range) ∨
      ∃ range ∈ (first :: rest).dropLast, EndsInVersion range := by
  induction rest generalizing first with
  | nil => simp [Text.joinWith]
  | cons next rest ih =>
      rw [Text.joinWith_cons_cons, show String.singleton ',' = "," from rfl, asksUnserved_append,
        ih, or_or_or_comm, List.dropLast_cons_cons,
        List.exists_mem_cons_iff AsksUnserved first (next :: rest),
        List.exists_mem_cons_iff EndsInVersion first]

/-- A list is refused if its first range is one of the vendor's, unless it passes as one range. -/
theorem refused_joinWith_iff :
    Refused (Text.joinWith ',' (first :: rest)) ↔ IsVendor first ∧ ¬ PassesAsOne first rest := by
  rw [refused_iff, isVendor_joinWith, namesPlainType_joinWith, asksUnserved_joinWith, not_or]
  refine and_congr_right fun _ => not_congr ⟨?_, ?_⟩
  · rintro ⟨⟨hparameters, hplain⟩, hserved, hapart⟩
    exact ⟨hparameters, hplain, by simpa using hserved, by simpa using hapart⟩
  · rintro ⟨hparameters, hplain, hserved, hapart⟩
    exact ⟨⟨hparameters, hplain⟩, by simpa using hserved, by simpa using hapart⟩

end SearchGateway.Elastic
