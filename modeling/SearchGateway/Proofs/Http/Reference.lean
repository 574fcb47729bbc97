import Mathlib.Data.List.Induction
import SearchGateway.Proofs.Lists
import SearchGateway.Proofs.Text.Split

/-!
# Relative references

The address that a client finds by a reference, as RFC 3986 has it in section 5.2: the reference
takes the place of the last segment of the path that it stands under, and then the segments `.` and
`..` are worked off from the left. A path to a directory, one step down for each of some segments
and as many steps up again lead back to the directory (`Reference.resolve_ups`).
-/

namespace SearchGateway.Http.Reference

/-! ## Resolution -/

/-- A path without its last segment and the slash before that. -/
def parent (path : List Char) : List Char :=
  match Text.cutLast? (· == '/') path with
  | some (before, _) => before
  | none => []

/-- Works off the segments of `input` that are dots. What has been kept so far is `kept`. -/
def removeDots (kept input : List Char) : List Char :=
  match input with
  | [] => kept
  | '.' :: '.' :: '/' :: rest => removeDots kept rest
  | '.' :: '/' :: rest => removeDots kept rest
  | '/' :: '.' :: '/' :: rest => removeDots kept ('/' :: rest)
  | ['/', '.'] => removeDots kept ['/']
  | '/' :: '.' :: '.' :: '/' :: rest => removeDots (parent kept) ('/' :: rest)
  | ['/', '.', '.'] => removeDots (parent kept) ['/']
  | ['.'] => kept
  | ['.', '.'] => kept
  | c :: rest => removeDots (kept ++ c :: rest.takeWhile (· ≠ '/')) (rest.dropWhile (· ≠ '/'))
termination_by input.length
decreasing_by
  all_goals simp only [List.length_cons, List.length_nil]
  all_goals try omega
  exact Nat.lt_succ_of_le (List.dropWhile_sublist _).length_le

/-- A reference in the place of the last segment of a path. -/
def merge (path reference : List Char) : List Char :=
  if path = [] then '/' :: reference
  else
    match Text.cutLast? (· == '/') path with
    | some (before, _) => before ++ '/' :: reference
    | none => reference

/-- The path that a reference leads to from a page at `path`. -/
def resolve (path reference : String) : String :=
  match reference.toList with
  | [] => path
  | '/' :: rest => String.ofList (removeDots [] ('/' :: rest))
  | chars => String.ofList (removeDots [] (merge path.toList chars))

/-- A reference that is a path only: it names neither a scheme nor a host, a query or a
fragment. -/
structure IsPath (reference : String) : Prop where
  host : ¬ "//".toList <+: reference.toList
  chars : ∀ c ∈ reference.toList, c ∉ [':', '?', '#']

/-- No segment of a path is `.` or `..`. -/
def NoDots (path : String) : Prop :=
  ∀ segment ∈ Text.splitAt '/' path, segment ≠ "." ∧ segment ≠ ".."

instance (path : String) : Decidable (NoDots path) :=
  inferInstanceAs (Decidable (∀ segment ∈ Text.splitAt '/' path, segment ≠ "." ∧ segment ≠ ".."))

/-! ## Segments -/

/-- A segment that is kept. -/
structure IsPlain (segment : List Char) : Prop where
  slash : '/' ∉ segment
  dot : segment ≠ ['.']
  dots : segment ≠ ['.', '.']

/-- Segments with a slash before each of them. -/
def rooted (segments : List (List Char)) : List Char :=
  segments.flatMap ('/' :: ·)

variable {kept segment rest first : List Char} {segments : List (List Char)}

theorem ne_slash_of_mem (h : '/' ∉ segment) : ∀ c ∈ segment, decide (c ≠ '/') = true := by
  intro c hc
  simpa using fun heq : c = '/' => h (heq ▸ hc)

theorem takeWhile_segment (h : '/' ∉ segment) :
    (segment ++ '/' :: rest).takeWhile (· ≠ '/') = segment := by
  rw [List.takeWhile_append_of_pos (ne_slash_of_mem h), List.takeWhile_cons_of_neg (by simp),
    List.append_nil]

theorem dropWhile_segment (h : '/' ∉ segment) :
    (segment ++ '/' :: rest).dropWhile (· ≠ '/') = '/' :: rest := by
  rw [List.dropWhile_append_of_pos (ne_slash_of_mem h), List.dropWhile_cons_of_neg (by simp)]

theorem IsPlain.ne_dots (h : IsPlain segment) {dots rest' : List Char}
    (hdots : dots = ['.'] ∨ dots = ['.', '.']) :
    segment ++ '/' :: rest ≠ dots ++ '/' :: rest' := by
  intro heq
  have hslash : '/' ∉ dots := by rcases hdots with rfl | rfl <;> decide
  have hsegment := ((append_cons_inj h.slash hslash).1 heq).1
  rcases hdots with rfl | rfl
  · exact h.dot hsegment
  · exact h.dots hsegment

theorem removeDots_segment (h : IsPlain segment) :
    removeDots kept ('/' :: segment ++ '/' :: rest) =
      removeDots (kept ++ '/' :: segment) ('/' :: rest) := by
  rw [List.cons_append, removeDots, takeWhile_segment h.slash, dropWhile_segment h.slash]
  · intro _ hc
    cases hc
  · intro _ hc
    cases hc
  · intro _ _ heq
    exact h.ne_dots (.inl rfl) heq
  · intro _ heq
    simpa using congrArg ('/' ∈ ·) heq
  · intro _ _ heq
    exact h.ne_dots (.inr rfl) heq
  · intro _ heq
    simpa using congrArg ('/' ∈ ·) heq
  · intro hc
    cases hc
  · intro hc
    cases hc

theorem removeDots_first (h : IsPlain first) :
    removeDots [] (first ++ '/' :: rest) = removeDots first ('/' :: rest) := by
  cases hfirst : first with
  | nil => rfl
  | cons c chars =>
      rw [hfirst] at h
      obtain ⟨hc, hchars⟩ := not_or.1 (List.mem_cons.not.1 h.slash)
      rw [List.cons_append, removeDots, takeWhile_segment hchars, dropWhile_segment hchars,
        List.nil_append]
      · rintro rest' rfl heq
        exact h.ne_dots (.inr rfl) (congrArg ('.' :: ·) heq)
      · rintro rest' rfl heq
        exact h.ne_dots (.inl rfl) (congrArg ('.' :: ·) heq)
      · intro _ heq
        exact absurd heq.symm hc
      · intro heq
        exact absurd heq.symm hc
      · intro _ heq
        exact absurd heq.symm hc
      · intro heq
        exact absurd heq.symm hc
      · intro _ heq
        simpa using congrArg ('/' ∈ ·) heq
      · intro _ heq
        simpa using congrArg ('/' ∈ ·) heq

theorem rooted_cons : rooted (segment :: segments) = '/' :: segment ++ rooted segments := rfl

theorem rooted_append {others : List (List Char)} :
    rooted (segments ++ others) = rooted segments ++ rooted others :=
  List.flatMap_append

theorem exists_rooted_append (segments : List (List Char)) (rest : List Char) :
    ∃ rest', rooted segments ++ '/' :: rest = '/' :: rest' := by
  cases segments with
  | nil => exact ⟨rest, rfl⟩
  | cons segment segments =>
      exact ⟨segment ++ (rooted segments ++ '/' :: rest), by simp [rooted]⟩

theorem removeDots_rooted (h : ∀ segment ∈ segments, IsPlain segment) :
    removeDots kept (rooted segments ++ '/' :: rest) =
      removeDots (kept ++ rooted segments) ('/' :: rest) := by
  induction segments generalizing kept with
  | nil => simp [rooted]
  | cons segment segments ih =>
      obtain ⟨hsegment, hsegments⟩ := List.forall_mem_cons.1 h
      obtain ⟨rest', hrest'⟩ := exists_rooted_append segments rest
      calc removeDots kept (rooted (segment :: segments) ++ '/' :: rest)
          = removeDots kept ('/' :: segment ++ '/' :: rest') := by
            rw [rooted_cons, List.append_assoc, hrest']
        _ = removeDots (kept ++ '/' :: segment) (rooted segments ++ '/' :: rest) := by
            rw [removeDots_segment hsegment, hrest']
        _ = removeDots (kept ++ rooted (segment :: segments)) ('/' :: rest) := by
            rw [ih hsegments, rooted_cons, List.append_assoc]

/-! ## Steps up -/

/-- As many steps up. -/
def ups (n : Nat) : List Char :=
  (List.replicate n ['.', '.', '/']).flatten

theorem ups_succ {n : Nat} : ups (n + 1) = '.' :: '.' :: '/' :: ups n := rfl

theorem cutLast?_segment (h : '/' ∉ segment) :
    Text.cutLast? (· == '/') (kept ++ '/' :: segment) = some (kept, segment) := by
  refine Text.cutLast?_eq_some_iff.2 ⟨'/', beq_self_eq_true '/', rfl, fun c hc => ?_⟩
  exact beq_eq_false_iff_ne.2 fun heq => h (heq ▸ hc)

theorem parent_append (h : '/' ∉ segment) : parent (kept ++ '/' :: segment) = kept := by
  rw [parent, cutLast?_segment h]

theorem merge_append (h : '/' ∉ segment) :
    merge (kept ++ '/' :: segment) rest = kept ++ '/' :: rest := by
  rw [merge, if_neg (by simp), cutLast?_segment h]

/-- A step up for each segment leads back. -/
theorem removeDots_ups (h : ∀ segment ∈ segments, '/' ∉ segment) :
    removeDots (kept ++ rooted segments) ('/' :: ups segments.length) = kept ++ ['/'] := by
  induction segments using List.reverseRecOn with
  | nil =>
      rw [List.length_nil]
      simp [rooted, ups, removeDots]
  | append_singleton segments segment ih =>
      have hsegment : '/' ∉ segment := h segment (by simp)
      have hkept : kept ++ rooted (segments ++ [segment]) =
          kept ++ rooted segments ++ '/' :: segment := by
        simp [rooted]
      rw [hkept, List.length_append, List.length_singleton, ups_succ, removeDots,
        parent_append hsegment]
      exact ih fun other hother => h other (List.mem_append_left _ hother)

/-- A step up for each of the last segments of a path leads to what stands before them. -/
theorem removeDots_below {others steps : List (List Char)} (hfirst : IsPlain first)
    (hsegments : ∀ segment ∈ others ++ steps, IsPlain segment) :
    removeDots [] (first ++ rooted (others ++ steps) ++ '/' :: '.' :: '/' :: ups steps.length) =
      first ++ rooted others ++ ['/'] := by
  obtain ⟨rest, hrest⟩ :=
    exists_rooted_append (others ++ steps) ('.' :: '/' :: ups steps.length)
  calc removeDots [] (first ++ rooted (others ++ steps) ++ '/' :: '.' :: '/' :: ups steps.length)
      = removeDots first (rooted (others ++ steps) ++ '/' :: '.' :: '/' :: ups steps.length) := by
        rw [List.append_assoc, hrest, removeDots_first hfirst]
    _ = removeDots (first ++ rooted (others ++ steps)) ('/' :: '.' :: '/' :: ups steps.length) :=
        removeDots_rooted hsegments
    _ = removeDots (first ++ rooted others ++ rooted steps) ('/' :: ups steps.length) := by
        rw [removeDots, rooted_append, List.append_assoc]
    _ = first ++ rooted others ++ ['/'] :=
        removeDots_ups fun step hstep => (hsegments step (List.mem_append_right _ hstep)).slash

/-! ## Directories -/

theorem eq_rooted_of_split {s : List Char} (h : Text.split (· == '/') s = first :: segments) :
    s = first ++ rooted segments := by
  have hjoined : ['/'].intercalate (first :: segments) = first ++ rooted segments := by
    clear h
    induction segments generalizing first with
    | nil => simp [rooted]
    | cons segment segments ih =>
        rw [List.intercalate_cons_cons, ih, rooted_cons]
        simp
  rw [← hjoined, ← h, Text.intercalate_split]

theorem isPlain_of_noDots {path : String} (h : NoDots path) :
    ∀ segment ∈ Text.split (· == '/') path.toList, IsPlain segment := by
  intro segment hsegment
  obtain ⟨hdot, hdots⟩ := h (String.ofList segment) (List.mem_map_of_mem hsegment)
  constructor
  · intro hslash
    simpa using (Text.mem_split_iff.1 hsegment).1 '/' hslash
  · rintro rfl
    exact hdot rfl
  · rintro rfl
    exact hdots rfl

theorem noDots_append {path path' : String} (h : NoDots path) (h' : NoDots path') :
    NoDots (path ++ "/" ++ path') := by
  intro segment hsegment
  have htext : (path ++ "/" ++ path').toList = path.toList ++ '/' :: path'.toList := by simp
  rw [Text.splitAt_of_append htext, List.mem_append] at hsegment
  exact hsegment.elim (h segment) (h' segment)

/-- From any place below a directory, a step up for each slash in the way there leads back to the
directory. -/
theorem resolve_ups {directory way : String} (hdirectory : NoDots directory) (hway : NoDots way) :
    resolve (directory ++ "/" ++ way) (String.ofList ('.' :: '/' :: ups (way.toList.count '/'))) =
      directory ++ "/" := by
  obtain ⟨first, others, hothers⟩ :=
    List.exists_cons_of_ne_nil (Text.split_ne_nil (· == '/') directory.toList)
  obtain ⟨steps, last, hsteps⟩ := (List.eq_nil_or_concat' _).resolve_left
    (Text.split_ne_nil (· == '/') way.toList)
  have hsplit : Text.split (· == '/') (directory ++ "/" ++ way).toList =
      first :: (others ++ steps ++ [last]) := by
    have htext : (directory ++ "/" ++ way).toList = directory.toList ++ '/' :: way.toList := by
      simp
    rw [htext, Text.split_append_cons (p := (· == '/')) (beq_self_eq_true '/'), hothers, hsteps]
    simp
  have hpath : (directory ++ "/" ++ way).toList =
      first ++ rooted (others ++ steps) ++ '/' :: last := by
    rw [eq_rooted_of_split hsplit, rooted_append, List.append_assoc]
    simp [rooted]
  have hcount : way.toList.count '/' = steps.length := by
    have hlength := Text.length_split (p := (· == '/')) (s := way.toList)
    rw [hsteps, List.length_append, List.length_singleton] at hlength
    exact (Nat.succ.inj hlength).symm
  have hplain : ∀ segment ∈ first :: (others ++ steps ++ [last]), IsPlain segment := by
    rw [← hsplit]
    exact isPlain_of_noDots (noDots_append hdirectory hway)
  obtain ⟨hfirst, hrest⟩ := List.forall_mem_cons.1 hplain
  have hlast : IsPlain last := hrest last (by simp)
  have hresult : removeDots [] (merge (directory ++ "/" ++ way).toList
      ('.' :: '/' :: ups steps.length)) = first ++ rooted others ++ ['/'] := by
    -- the reference takes the place of the last segment
    rw [hpath, merge_append hlast.slash]
    exact removeDots_below hfirst fun segment hsegment => hrest segment
      (List.mem_append_left _ hsegment)
  rw [resolve, hcount, String.toList_ofList]
  change String.ofList (removeDots [] (merge (directory ++ "/" ++ way).toList
    ('.' :: '/' :: ups steps.length))) = directory ++ "/"
  rw [hresult, ← eq_rooted_of_split hothers]
  apply String.toList_injective
  simp

example : resolve "/b/c/d;p" "../../g/./h/../i" = "/g/i" := by decide +kernel

example : resolve "/b/c/d;p" "../../../.g/.." = "/" := by decide +kernel

end SearchGateway.Http.Reference
