/-!
# Splitting at a separator

`split p s` cuts `s` at every element that satisfies `p` and drops those elements; it has one
piece more than there are separators.
-/

namespace SearchGateway.Text

/-- The pieces between the separators, empty ones included. -/
def split {α : Type u} (p : α → Bool) : List α → List (List α)
  | [] => [[]]
  | a :: s =>
    if p a then [] :: split p s
    else
      match split p s with
      | [] => [[a]]
      | piece :: pieces => (a :: piece) :: pieces

theorem split_ne_nil {α : Type u} (p : α → Bool) (s : List α) : split p s ≠ [] := by
  cases s with
  | nil => simp [split]
  | cons a s => unfold split; split <;> (try split) <;> simp

/-- The part before the first separator and the part after it. -/
def cut? {α : Type u} (p : α → Bool) (s : List α) : Option (List α × List α) :=
  match s.dropWhile (!p ·) with
  | [] => none
  | _ :: rest => some (s.takeWhile (!p ·), rest)

/-- The part before the last separator and the part after it. -/
def cutLast? {α : Type u} (p : α → Bool) (s : List α) : Option (List α × List α) :=
  (cut? p s.reverse).map fun (after, before) => (before.reverse, after.reverse)

/-- What follows `start` in a text that begins with it. -/
def after? {α : Type u} [BEq α] : List α → List α → Option (List α)
  | [], s => some s
  | _ :: _, [] => none
  | a :: start, b :: s => if a == b then after? start s else none

/-- The pieces of a `String` between occurrences of `c`. -/
def splitAt (c : Char) (s : String) : List String :=
  (split (· == c) s.toList).map String.ofList

/-- Texts joined with `c` between them. -/
def joinWith (c : Char) (pieces : List String) : String :=
  String.ofList ([c].intercalate (pieces.map String.toList))

end SearchGateway.Text
