import SearchGateway.Proofs.Text.Blank
import SearchGateway.Proofs.Text.Split
import SearchGateway.Registry.Target

/-!
# What expressions enumerate

Between its commas an expression holds one token with blanks around it, or blanks only
(`Enumerates`), and there is no second way to read it (`tokens_eq_iff`). Texts that are joined with
commas are found again exactly if all of them are tokens (`tokens_joined_iff`).
-/

namespace SearchGateway.Registry

/-- What an expression can hold as one of its tokens. -/
structure IsToken (text : String) : Prop where
  nonempty : text ≠ ""
  comma : ',' ∉ text.toList
  first : ∀ c ∈ text.toList.head?, Text.isBlank c = false
  last : ∀ c ∈ text.toList.getLast?, Text.isBlank c = false

/-- The tokens that an expression enumerates, in order. -/
inductive Enumerates : String → List String → Prop where
  | blank {text} : (∀ c ∈ text.toList, Text.isBlank c) → Enumerates text []
  | token {front token back} : (∀ c ∈ front.toList, Text.isBlank c) → IsToken token →
      (∀ c ∈ back.toList, Text.isBlank c) → Enumerates (front ++ token ++ back) [token]
  | comma {first second names others} : Enumerates first names → Enumerates second others →
      Enumerates (first ++ "," ++ second) (names ++ others)

variable {expression first second name token front back text : String} {names : List String}

theorem Enumerates.isToken (h : Enumerates expression names) : ∀ name ∈ names, IsToken name := by
  induction h with
  | blank hblank => simp
  | token hfront htoken hback => simpa using htoken
  | comma hfirst hsecond ih ih' =>
      intro name hname
      exact (List.mem_append.1 hname).elim (ih name) (ih' name)

theorem IsToken.enumerates (h : IsToken token) : Enumerates token [token] := by
  have henumerates : Enumerates ("" ++ token ++ "") [token] := .token (by simp) h (by simp)
  simpa using henumerates

/-! ## Expressions put together -/

theorem splitAt_append : Text.splitAt ',' (first ++ "," ++ second) =
    Text.splitAt ',' first ++ Text.splitAt ',' second :=
  Text.splitAt_of_append (by simp)

theorem tokens_append : tokens (first ++ "," ++ second) = tokens first ++ tokens second := by
  simp only [tokens, splitAt_append, List.map_append, List.filter_append]

theorem tokens_joinWith (names : List String) :
    tokens (Text.joinWith ',' names) = names.flatMap tokens := by
  match names with
  | [] => rfl
  | [name] => simp [Text.joinWith]
  | first :: second :: others =>
      have ih := tokens_joinWith (second :: others)
      rw [Text.joinWith_cons_cons, List.flatMap_cons, ← ih]
      exact tokens_append

/-! ## Between two commas -/

theorem tokens_of_not_mem (h : ',' ∉ name.toList) :
    tokens name = if Text.trimmed name = "" then [] else [Text.trimmed name] := by
  have hplain : ∀ c ∈ name.toList, (c == ',') = false := fun c hc =>
    beq_eq_false_iff_ne.2 fun heq => h (heq ▸ hc)
  rw [tokens, Text.splitAt, Text.split_of_forall_not hplain]
  simp only [List.map_cons, List.map_nil, String.ofList_toList]
  by_cases hempty : Text.trimmed name = "" <;> simp [hempty]

theorem not_mem_of_blank (h : ∀ c ∈ text.toList, Text.isBlank c) : ',' ∉ text.toList :=
  fun hmem => absurd (h ',' hmem) (by decide)

theorem tokens_of_blank (h : ∀ c ∈ text.toList, Text.isBlank c) : tokens text = [] := by
  rw [tokens_of_not_mem (not_mem_of_blank h), if_pos (Text.trimmed_eq_empty_iff.2 h)]

theorem tokens_of_isToken (hfront : ∀ c ∈ front.toList, Text.isBlank c) (htoken : IsToken token)
    (hback : ∀ c ∈ back.toList, Text.isBlank c) : tokens (front ++ token ++ back) = [token] := by
  have hcomma : ',' ∉ (front ++ token ++ back).toList := by
    simp [not_mem_of_blank hfront, htoken.comma, not_mem_of_blank hback]
  have htrims : Text.Trims (front ++ token ++ back).toList token.toList :=
    ⟨⟨front.toList, back.toList, by simp, hfront, hback⟩, htoken.first, htoken.last⟩
  have htrimmed : Text.trimmed (front ++ token ++ back) = token := by
    rw [Text.trimmed, Text.trim_eq_iff.2 htrims, String.ofList_toList]
  rw [tokens_of_not_mem hcomma, htrimmed, if_neg htoken.nonempty]

theorem enumerates_of_not_mem (h : ',' ∉ name.toList) : Enumerates name (tokens name) := by
  rw [tokens_of_not_mem h]
  -- what is trimmed away stands around a token, unless nothing is left
  split
  · rename_i hempty
    exact .blank (Text.trimmed_eq_empty_iff.1 hempty)
  · rename_i hempty
    obtain ⟨⟨front, back, hname, hfront, hback⟩, hfirst, hlast⟩ := Text.trims_trim name.toList
    have htoken : IsToken (Text.trimmed name) := by
      refine ⟨hempty, fun hmem => h (Text.mem_of_mem_trimmed hmem), ?_, ?_⟩
      · simpa [Text.trimmed] using hfirst
      · simpa [Text.trimmed] using hlast
    have hparts : String.ofList front ++ Text.trimmed name ++ String.ofList back = name := by
      apply String.toList_injective
      simpa [Text.trimmed] using hname.symm
    have henumerates : Enumerates (String.ofList front ++ Text.trimmed name ++ String.ofList back)
        [Text.trimmed name] :=
      .token (by simpa using hfront) htoken (by simpa using hback)
    rwa [hparts] at henumerates

/-! ## Whole expressions -/

theorem enumerates_joinWith (names : List String) (h : ∀ name ∈ names, ',' ∉ name.toList) :
    Enumerates (Text.joinWith ',' names) (names.flatMap tokens) := by
  match names with
  | [] => exact .blank (by simp [Text.joinWith])
  | [name] => simpa [Text.joinWith] using enumerates_of_not_mem (h name List.mem_cons_self)
  | first :: second :: others =>
      obtain ⟨hfirst, hothers⟩ := List.forall_mem_cons.1 h
      rw [Text.joinWith_cons_cons, List.flatMap_cons]
      exact .comma (enumerates_of_not_mem hfirst) (enumerates_joinWith _ hothers)

theorem enumerates_tokens (expression : String) : Enumerates expression (tokens expression) := by
  have henumerates := enumerates_joinWith (Text.splitAt ',' expression) fun _ =>
    Text.not_mem_of_mem_splitAt
  rwa [← tokens_joinWith, Text.joinWith_splitAt] at henumerates

theorem Enumerates.tokens_eq (h : Enumerates expression names) : tokens expression = names := by
  induction h with
  | blank hblank => exact tokens_of_blank hblank
  | token hfront htoken hback => exact tokens_of_isToken hfront htoken hback
  | comma hfirst hsecond ih ih' => rw [tokens_append, ih, ih']

/-- An expression enumerates its tokens and nothing else. -/
theorem tokens_eq_iff : tokens expression = names ↔ Enumerates expression names :=
  ⟨fun h => h ▸ enumerates_tokens expression, Enumerates.tokens_eq⟩

theorem isToken_of_mem_tokens (h : token ∈ tokens expression) : IsToken token :=
  (enumerates_tokens expression).isToken token h

/-- Texts are found again from their join if and only if they are tokens. -/
theorem tokens_joined_iff :
    tokens (Text.joinWith ',' names) = names ↔ ∀ name ∈ names, IsToken name := by
  constructor
  · intro h name hname
    rw [← h] at hname
    exact isToken_of_mem_tokens hname
  · intro h
    have hone : ∀ name ∈ names, tokens name = [name] := fun name hname =>
      (h name hname).enumerates.tokens_eq
    rw [tokens_joinWith, List.flatMap_congr hone, List.flatMap_singleton']

/-- A function takes expressions apart into the tokens that they enumerate: those on the two sides
of a comma are found on their own, and all of them are found again when they are joined. -/
structure SplitsCanonically (split : String → List String) : Prop where
  append : ∀ first second, split (first ++ "," ++ second) = split first ++ split second
  isToken : ∀ expression, ∀ token ∈ split expression, IsToken token
  rejoined : ∀ expression, split (Text.joinWith ',' (split expression)) = split expression
  joined_iff : ∀ names, split (Text.joinWith ',' names) = names ↔ ∀ name ∈ names, IsToken name
  eq_iff : ∀ expression names, split expression = names ↔ Enumerates expression names

theorem splitsCanonically_tokens : SplitsCanonically tokens where
  append _ _ := tokens_append
  isToken _ _ := isToken_of_mem_tokens
  rejoined _ := tokens_joined_iff.2 fun _ => isToken_of_mem_tokens
  joined_iff _ := tokens_joined_iff
  eq_iff _ _ := tokens_eq_iff

/-- What stands between two commas need not hold a token. -/
example : tokens "a, b,,c" = ["a", "b", "c"] := by
  decide +kernel

end SearchGateway.Registry
