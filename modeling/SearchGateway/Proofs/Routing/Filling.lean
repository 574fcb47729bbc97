import SearchGateway.Proofs.Routing.Precedence
import SearchGateway.Proofs.Text.Split

/-!
# Paths written from a pattern

A path is written from a pattern by putting a piece in the place of each parameter. The pattern fits
such a path (`fits_fill`) and takes these pieces from it (`bind_fill`).
-/

namespace SearchGateway.Routing

/-- The piece that a segment is written as. -/
def Segment.fill (value : String → String) : Segment → String
  | .literal text => text
  | .parameter name => value name
  | .rest name => value name

/-- The pieces of the path that is written from a pattern. -/
def Pattern.fill (value : String → String) (pattern : Pattern) : List String :=
  pattern.map (Segment.fill value)

/-- The path that is written from a pattern. -/
def Pattern.path (value : String → String) (pattern : Pattern) : String :=
  Text.joinWith '/' ("" :: pattern.fill value)

/-- The path of a document. -/
example : (Pattern.ofPath "/es/:target/_doc/:id").path
    (fun name => if name = "target" then "logs" else "1") = "/es/logs/_doc/1" := by
  decide +kernel

/-- No segment of a pattern takes more than one piece. -/
def Pattern.IsBounded (pattern : Pattern) : Prop :=
  ∀ segment ∈ pattern, segment.breadth < 2

instance (pattern : Pattern) : Decidable pattern.IsBounded :=
  inferInstanceAs (Decidable (∀ segment ∈ pattern, segment.breadth < 2))

variable {pattern : Pattern} {value : String → String}

theorem Pattern.IsBounded.tail {segment : Segment} (h : Pattern.IsBounded (segment :: pattern)) :
    pattern.IsBounded :=
  (List.forall_mem_cons.1 h).2

/-! ## Writing and reading a path -/

theorem literal_of_mem_ofPath {path text : String} (h : .literal text ∈ Pattern.ofPath path) :
    '/' ∉ text.toList := by
  obtain ⟨piece, hpiece, hsegment⟩ := List.mem_map.1 h
  have htext : text = piece := by
    unfold Segment.ofText at hsegment
    split at hsegment <;> cases hsegment
    rfl
  have hsplit : piece ∈ Text.splitAt '/' path := by
    unfold pieces? at hpiece
    split at hpiece
    · rename_i pieces heq
      rw [heq]
      exact List.mem_cons_of_mem _ hpiece
    · cases hpiece
  exact htext ▸ Text.not_mem_of_mem_splitAt hsplit

theorem pieces?_path {path : String} (h : ∀ name, '/' ∉ (value name).toList) :
    pieces? ((Pattern.ofPath path).path value) = some ((Pattern.ofPath path).fill value) := by
  have hpieces : ∀ piece ∈ (Pattern.ofPath path).fill value, '/' ∉ piece.toList := by
    intro piece hpiece
    obtain ⟨segment, hsegment, rfl⟩ := List.mem_map.1 hpiece
    cases segment with
    | literal text => exact literal_of_mem_ofPath hsegment
    | parameter name | rest name => exact h name
  have hsplit : Text.splitAt '/' ((Pattern.ofPath path).path value) =
      "" :: (Pattern.ofPath path).fill value := by
    refine Text.splitAt_joinWith (List.cons_ne_nil _ _) ?_
    rw [List.forall_mem_cons]
    exact ⟨by simp, hpieces⟩
  simp only [pieces?, hsplit]

theorem fits_fill (hbounded : pattern.IsBounded) (h : ∀ name ∈ pattern.names, value name ≠ "") :
    Fits pattern (pattern.fill value) := by
  induction pattern with
  | nil => exact .nil
  | cons segment pattern ih =>
      have ih := ih hbounded.tail
      cases segment with
      | literal text => exact (ih h).literal
      | parameter name =>
          obtain ⟨hname, hnames⟩ := List.forall_mem_cons.1 h
          exact .parameter (fun hlast => hname hlast.1) (ih hnames)
      | rest name => exact absurd (hbounded _ List.mem_cons_self) (Nat.lt_irrefl 2)

theorem bind_fill (hbounded : pattern.IsBounded) :
    pattern.bind (pattern.fill value) = pattern.names.map fun name => (name, value name) := by
  induction pattern with
  | nil => rfl
  | cons segment pattern ih =>
      have ih := ih hbounded.tail
      cases segment with
      | literal text => exact ih
      | parameter name => exact congrArg (_ :: ·) ih
      | rest name => exact absurd (hbounded _ List.mem_cons_self) (Nat.lt_irrefl 2)

end SearchGateway.Routing
