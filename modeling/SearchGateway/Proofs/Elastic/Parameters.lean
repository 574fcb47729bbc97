import SearchGateway.Proofs.Elastic.Query
import SearchGateway.Proofs.Keyed
import SearchGateway.Proofs.Text.Numeral

/-!
# Which parameters are accepted

Each pair of a query is acceptable or not on its own, whatever the others are, and the first one
that is not decides what is reported (`Query.ofPairs_eq_error_iff`). A query that is accepted is in
normal form: taken once more, it stays as it is (`Query.ofPairs_normalizes`).
-/

namespace SearchGateway.Elastic

variable {name value normal : String} {pair : String × String} {pairs : List (String × String)}

/-! ## Pairs -/

/-- A value is acceptable for its name. -/
structure Acceptable (name value : String) : Prop where
  refresh : name = "refresh" → value ∈ ["", "true", "wait_for", "false"]
  count : name = "from" ∨ name = "size" → ∃ n, Text.Spells value n ∧ n < Nat.pow 2 64
  opType : name = "op_type" → Text.lowered value ∈ ["index", "create"]

/-- Why a value that is not acceptable for its name is refused. -/
def refusal (name value : String) : ParameterError :=
  if name = "refresh" then .badRefresh value
  else if name = "op_type" then .badOpType value
  else .badCount name value

theorem acceptable_of_not_special (hrefresh : name ≠ "refresh")
    (hcount : name ≠ "from" ∧ name ≠ "size") (hop : name ≠ "op_type") : Acceptable name value :=
  ⟨fun h => absurd h hrefresh, fun h => absurd h (by simp [hcount]), fun h => absurd h hop⟩

theorem acceptable_of_presentation (h : name ∈ presentationNames) : Acceptable name value := by
  simp only [presentationNames, List.mem_cons, List.not_mem_nil, or_false] at h
  rcases h with rfl | rfl | rfl | rfl <;>
    exact acceptable_of_not_special (by decide) (by decide) (by decide)

theorem normalRefresh_of_mem (h : value ∈ ["", "true", "wait_for", "false"]) :
    normalRefresh value = .ok (neutralValue "refresh" value) := by
  simp only [List.mem_cons, List.not_mem_nil, or_false] at h
  rcases h with rfl | rfl | rfl | rfl <;> decide

theorem normalRefresh_of_not_mem (h : value ∉ ["", "true", "wait_for", "false"]) :
    normalRefresh value = .error (.badRefresh value) := by
  simp only [List.mem_cons, List.not_mem_nil, or_false, not_or] at h
  simp [normalRefresh, h]

theorem normalValue_of_acceptable (h : Acceptable name value) :
    normalValue name value = .ok (neutralValue name value) := by
  unfold normalValue
  split_ifs with hrefresh hcount hop
  · rw [normalRefresh_of_mem (h.refresh hrefresh), hrefresh]
  · obtain ⟨n, hn⟩ := h.count hcount
    rw [Text.unsigned?_eq_some_iff.2 hn]
    rcases hcount with rfl | rfl <;> simp [neutralValue]
  · have hword := h.opType hop
    simp only [List.mem_cons, List.not_mem_nil, or_false] at hword
    simp [normalOpType, hword, neutralValue, hop]
  · simp [neutralValue, hrefresh, hop]

theorem normalValue_of_not_acceptable (h : ¬ Acceptable name value) :
    normalValue name value = .error (refusal name value) := by
  unfold normalValue refusal
  split_ifs with hrefresh hcount hop hop
  · refine normalRefresh_of_not_mem fun hmem => h ⟨fun _ => hmem, ?_, ?_⟩ <;> simp [hrefresh]
  · rcases hcount with rfl | rfl <;> simp at hop
  · cases hread : Text.unsigned? (Nat.pow 2 64) value with
    | none => rfl
    | some n =>
        have hspelled := Text.unsigned?_eq_some_iff.1 hread
        exact absurd ⟨fun h => absurd h hrefresh, fun _ => ⟨n, hspelled⟩, fun h => absurd h hop⟩ h
  · have hword : ¬ (Text.lowered value = "index" ∨ Text.lowered value = "create") := fun hword =>
      h ⟨fun h => absurd h hrefresh, fun h => absurd h hcount, fun _ => by simpa using hword⟩
    simp only [normalOpType, if_neg hword]
  · exact absurd (acceptable_of_not_special hrefresh (not_or.1 hcount) hop) h

theorem Acceptable.neutral (h : Acceptable name value) :
    Acceptable name (neutralValue name value) ∧
      neutralValue name (neutralValue name value) = neutralValue name value := by
  by_cases hrefresh : name = "refresh"
  · subst hrefresh
    have hmem := h.refresh rfl
    simp only [List.mem_cons, List.not_mem_nil, or_false] at hmem
    rcases hmem with rfl | rfl | rfl | rfl <;>
      exact ⟨⟨fun _ => by decide, fun h => absurd h (by decide), fun h => absurd h (by decide)⟩,
        by decide⟩
  · by_cases hop : name = "op_type"
    · subst hop
      have hmem := h.opType rfl
      have hvalue : neutralValue "op_type" value = Text.lowered value := rfl
      rw [hvalue]
      simp only [List.mem_cons, List.not_mem_nil, or_false] at hmem
      rcases hmem with hword | hword <;> rw [hword] <;>
        exact ⟨⟨fun h => absurd h (by decide), fun h => absurd h (by decide), fun _ => by decide⟩,
          by decide⟩
    · have hvalue : neutralValue name value = value := by simp [neutralValue, hrefresh, hop]
      rw [hvalue]
      exact ⟨h, hvalue⟩

namespace Query

variable {q q' : Query} {e : ParameterError}

/-! ## Lists of pairs -/

theorem add_of_presentation (h : pair.1 ∈ presentationNames) :
    ∃ pretty, q.add pair = .ok { q with pretty } := by
  obtain ⟨name, value⟩ := pair
  simp only [add, if_pos h]
  split
  · exact ⟨_, rfl⟩
  · exact ⟨q.pretty, rfl⟩

theorem add_of_not_presentation (h : pair.1 ∉ presentationNames) :
    q.add pair = (normalValue pair.1 pair.2).map fun normal =>
      { q with parameters := q.parameters.insert pair.1 normal } := by
  simp only [add, if_neg h]

theorem add_of_acceptable (h : Acceptable pair.1 pair.2) : ∃ q', q.add pair = .ok q' := by
  by_cases hname : pair.1 ∈ presentationNames
  · obtain ⟨pretty, hadd⟩ := add_of_presentation (q := q) hname
    exact ⟨_, hadd⟩
  · exact ⟨_, by rw [add_of_not_presentation hname, normalValue_of_acceptable h]; rfl⟩

theorem add_of_not_acceptable (h : ¬ Acceptable pair.1 pair.2) :
    q.add pair = .error (refusal pair.1 pair.2) := by
  rw [add_of_not_presentation fun hname => h (acceptable_of_presentation hname),
    normalValue_of_not_acceptable h]
  rfl

theorem foldlM_of_acceptable (h : ∀ pair ∈ pairs, Acceptable pair.1 pair.2) :
    ∃ q', pairs.foldlM add q = .ok q' := by
  induction pairs generalizing q with
  | nil => exact ⟨q, rfl⟩
  | cons pair pairs ih =>
      obtain ⟨hpair, hpairs⟩ := List.forall_mem_cons.1 h
      obtain ⟨q', hadd⟩ := add_of_acceptable (q := q) hpair
      obtain ⟨last, hlast⟩ := ih (q := q') hpairs
      exact ⟨last, by rw [List.foldlM_cons, hadd, ok_bind, hlast]⟩

theorem ofPairs_of_refused {front rest : List (String × String)}
    (hfront : ∀ earlier ∈ front, Acceptable earlier.1 earlier.2)
    (hpair : ¬ Acceptable pair.1 pair.2) :
    ofPairs (front ++ pair :: rest) = .error (refusal pair.1 pair.2) := by
  obtain ⟨q, hq⟩ := foldlM_of_acceptable (q := empty) hfront
  rw [ofPairs, List.foldlM_append, hq, ok_bind, List.foldlM_cons, add_of_not_acceptable hpair,
    error_bind]

/-- Either all pairs are acceptable, or there is a first one that is not. -/
theorem acceptable_or_refused (pairs : List (String × String)) :
    (∀ pair ∈ pairs, Acceptable pair.1 pair.2) ∨ ∃ front pair rest, pairs = front ++ pair :: rest ∧
      (∀ earlier ∈ front, Acceptable earlier.1 earlier.2) ∧ ¬ Acceptable pair.1 pair.2 := by
  induction pairs with
  | nil => exact .inl (by simp)
  | cons first pairs ih =>
      by_cases hfirst : Acceptable first.1 first.2
      · rcases ih with hall | ⟨front, pair, rest, rfl, hfront, hpair⟩
        · exact .inl (List.forall_mem_cons.2 ⟨hfirst, hall⟩)
        · exact .inr ⟨first :: front, pair, rest, rfl,
            List.forall_mem_cons.2 ⟨hfirst, hfront⟩, hpair⟩
      · exact .inr ⟨[], first, pairs, rfl, by simp, hfirst⟩

theorem exists_ofPairs_iff :
    (∃ q, ofPairs pairs = .ok q) ↔ ∀ pair ∈ pairs, Acceptable pair.1 pair.2 := by
  refine ⟨fun ⟨q, hq⟩ => ?_, foldlM_of_acceptable⟩
  rcases acceptable_or_refused pairs with hall | ⟨front, pair, rest, rfl, hfront, hpair⟩
  · exact hall
  · cases hq.symm.trans (ofPairs_of_refused hfront hpair)

theorem ofPairs_eq_error_iff : ofPairs pairs = .error e ↔
    ∃ front pair rest, pairs = front ++ pair :: rest ∧
      (∀ earlier ∈ front, Acceptable earlier.1 earlier.2) ∧ ¬ Acceptable pair.1 pair.2 ∧
        e = refusal pair.1 pair.2 := by
  constructor
  · intro h
    rcases acceptable_or_refused pairs with hall | ⟨front, pair, rest, rfl, hfront, hpair⟩
    · obtain ⟨q, hq⟩ := exists_ofPairs_iff.2 hall
      cases h.symm.trans hq
    · cases h.symm.trans (ofPairs_of_refused hfront hpair)
      exact ⟨front, pair, rest, rfl, hfront, hpair, rfl⟩
  · rintro ⟨front, pair, rest, rfl, hfront, hpair, rfl⟩
    exact ofPairs_of_refused hfront hpair

/-! ## Queries in normal form -/

/-- What a query that is accepted has of the pairs it comes from: for each name that matters to more
than the look of a response the normal form of its last value, and whether a body is to be indented.
Its own parameters are accepted as they are. -/
structure Normalizes (pairs : List (String × String)) (q : Query) : Prop where
  parameters : ∀ name normal, q.parameters.get? name = some normal ↔
    name ∉ presentationNames ∧ ∃ value, IsLast pairs name value ∧ normal = neutralValue name value
  pretty : q.pretty = true ↔ ∃ value, IsLast pairs "pretty" value ∧ value ≠ "false"
  again : ofPairs q.parameters.entries = .ok { q with pretty := false }

theorem get?_of_ofPairs (h : ofPairs pairs = .ok q) :
    q.parameters.get? name = some normal ↔ name ∉ presentationNames ∧
      ∃ value, IsLast pairs name value ∧ normal = neutralValue name value := by
  rw [parameters_ofPairs h, get?_neutral]
  by_cases hname : name ∈ presentationNames
  · simp [hname]
  · simp only [hname, if_false, not_false_eq_true, true_and, Option.map_eq_some_iff,
      Keyed.get?_ofList_eq_some_iff, eq_comm (a := normal)]

theorem pretty_of_ofPairs (h : ofPairs pairs = .ok q) :
    q.pretty = true ↔ ∃ value, IsLast pairs "pretty" value ∧ value ≠ "false" := by
  rw [pretty_ofPairs h, asksPretty, Option.any_eq_true]
  simp [Keyed.get?_ofList_eq_some_iff]

theorem neutral_of_get? (h : ofPairs pairs = .ok q) (hget : q.parameters.get? name = some normal) :
    name ∉ presentationNames ∧ Acceptable name normal ∧ neutralValue name normal = normal := by
  obtain ⟨hname, value, hlast, rfl⟩ := (get?_of_ofPairs h).1 hget
  exact ⟨hname, (exists_ofPairs_iff.1 ⟨q, h⟩ _ hlast.mem).neutral⟩

theorem neutral_parameters (h : ofPairs pairs = .ok q) : neutral q.parameters = q.parameters := by
  refine Keyed.ext_get? fun name => ?_
  rw [get?_neutral]
  cases hget : q.parameters.get? name with
  | none => simp
  | some normal =>
      obtain ⟨hname, -, hnormal⟩ := neutral_of_get? h hget
      simp [hname, hnormal]

theorem ofPairs_entries (h : ofPairs pairs = .ok q) :
    ofPairs q.parameters.entries = .ok { q with pretty := false } := by
  have hentries (pair) (hpair : pair ∈ q.parameters.entries) :=
    neutral_of_get? h (Keyed.get?_eq_some_iff.2 hpair)
  obtain ⟨q', hq'⟩ := exists_ofPairs_iff.2 fun pair hpair => (hentries pair hpair).2.1
  have hparameters : q'.parameters = q.parameters := by
    rw [parameters_ofPairs hq', Keyed.ofList_entries, neutral_parameters h]
  have hpretty : q'.pretty = false := by
    rw [pretty_ofPairs hq', Keyed.ofList_entries, asksPretty]
    cases hget : q.parameters.get? "pretty" with
    | none => rfl
    | some normal => exact absurd (by decide) (neutral_of_get? h hget).1
  rw [hq', ← hparameters, ← hpretty]

/-- Without the parameters about the look of a response the others are treated the same. -/
theorem foldlM_filter (h : q.parameters = q'.parameters) :
    ((pairs.filter (·.1 ∉ presentationNames)).foldlM add q).map (·.parameters) =
      (pairs.foldlM add q').map (·.parameters) := by
  induction pairs generalizing q q' with
  | nil => exact congrArg Except.ok h
  | cons pair pairs ih =>
      by_cases hname : pair.1 ∈ presentationNames
      · obtain ⟨pretty, hadd⟩ := add_of_presentation (q := q') hname
        rw [List.filter_cons_of_neg (by simpa using hname), List.foldlM_cons, hadd, ok_bind]
        exact ih h
      · rw [List.filter_cons_of_pos (by simpa using hname), List.foldlM_cons, List.foldlM_cons,
          add_of_not_presentation hname, add_of_not_presentation hname]
        cases normalValue pair.1 pair.2 with
        | error e => rfl
        | ok normal => exact ih (congrArg (·.insert pair.1 normal) h)

/-- A query is accepted if each of its pairs is acceptable on its own, also where a later pair has
the same name; otherwise the first pair that is not is reported. A query that is accepted is brought
to its normal form, and the parameters about the look of a response have no part in that. -/
theorem ofPairs_normalizes (pairs : List (String × String)) :
    ((∃ q, ofPairs pairs = .ok q) ↔ ∀ pair ∈ pairs, Acceptable pair.1 pair.2) ∧
    (∀ e, ofPairs pairs = .error e ↔ ∃ front pair rest, pairs = front ++ pair :: rest ∧
      (∀ earlier ∈ front, Acceptable earlier.1 earlier.2) ∧ ¬ Acceptable pair.1 pair.2 ∧
        e = refusal pair.1 pair.2) ∧
    (∀ q, ofPairs pairs = .ok q → Normalizes pairs q) ∧
    (ofPairs (pairs.filter (·.1 ∉ presentationNames))).map (·.parameters) =
      (ofPairs pairs).map (·.parameters) :=
  ⟨exists_ofPairs_iff, fun _ => ofPairs_eq_error_iff,
    fun _ h => ⟨fun _ _ => get?_of_ofPairs h, pretty_of_ofPairs h, ofPairs_entries h⟩,
    foldlM_filter rfl⟩

/-! ## Repeated names -/

def repeatedPairs : List (String × String) :=
  [("refresh", "wait_for"), ("pretty", "false"), ("size", "+007"), ("op_type", "CREATE"),
    ("refresh", "false"), ("pretty", ""), ("human", "true")]

/-- A number that is too large, before one that is not. -/
def hugePairs : List (String × String) :=
  [("size", "18446744073709551615"), ("from", "18446744073709551616"), ("from", "0")]

/-- Of a repeated name the last value counts, but all of them are checked. -/
theorem ofPairs_normalizes_repeated :
    ofPairs repeatedPairs =
      .ok ⟨.ofList [("op_type", "create"), ("refresh", "false"), ("size", "+007")], true⟩ ∧
    Normalizes repeatedPairs
      ⟨.ofList [("op_type", "create"), ("refresh", "false"), ("size", "+007")], true⟩ ∧
    ofPairs hugePairs = .error (.badCount "from" "18446744073709551616") ∧
    ¬ ∀ pair ∈ hugePairs, Acceptable pair.1 pair.2 := by
  have hrepeated : ofPairs repeatedPairs =
      .ok ⟨.ofList [("op_type", "create"), ("refresh", "false"), ("size", "+007")], true⟩ := by
    decide +kernel
  have hhuge : ofPairs hugePairs = .error (.badCount "from" "18446744073709551616") := by
    decide +kernel
  obtain ⟨haccepted, -, -⟩ := ofPairs_normalizes hugePairs
  refine ⟨hrepeated, (ofPairs_normalizes repeatedPairs).2.2.1 _ hrepeated, hhuge, fun hall => ?_⟩
  obtain ⟨q, hq⟩ := haccepted.2 hall
  cases hhuge.symm.trans hq

end Query

end SearchGateway.Elastic
