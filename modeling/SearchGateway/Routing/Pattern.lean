import SearchGateway.Text.Split

/-!
# Path patterns

A pattern is matched piece by piece. A parameter takes one piece, which is not empty if it is the
last one, and a final catch-all takes the rest of the path if there is any. Where several patterns
fit, a literal piece goes before a parameter and a parameter before a catch-all, at the first piece
where they differ.
-/

namespace SearchGateway.Routing

/-- One piece of a pattern. -/
inductive Segment where
  | literal (text : String)
  | parameter (name : String)
  | rest (name : String)
deriving DecidableEq, Repr

/-- A pattern for paths. -/
abbrev Pattern := List Segment

/-- The pieces of a path after its leading slash. -/
def pieces? (path : String) : Option (List String) :=
  match Text.splitAt '/' path with
  | "" :: pieces => some pieces
  | _ => none

/-- The piece of a pattern that is written as a text. -/
def Segment.ofText (text : String) : Segment :=
  match text.toList with
  | ':' :: name => .parameter (String.ofList name)
  | '*' :: name => .rest (String.ofList name)
  | _ => .literal text

/-- The pattern that is written as a path. -/
def Pattern.ofPath (path : String) : Pattern :=
  ((pieces? path).getD []).map Segment.ofText

/-- The rests of the patterns that begin with this literal. -/
def afterLiteral {α : Type u} (piece : String) (l : List (Pattern × α)) : List (Pattern × α) :=
  l.filterMap fun
    | (.literal text :: rest, a) => if text = piece then some (rest, a) else none
    | _ => none

/-- The rests of the patterns that begin with a parameter. -/
def afterParameter {α : Type u} (l : List (Pattern × α)) : List (Pattern × α) :=
  l.filterMap fun
    | (.parameter _ :: rest, a) => some (rest, a)
    | _ => none

/-- The first of the patterns that is a catch-all. -/
def catchAll? {α : Type u} (l : List (Pattern × α)) : Option α :=
  l.findSome? fun
    | ([.rest _], a) => some a
    | _ => none

/-- The first of the patterns that has no pieces left. -/
def finished? {α : Type u} (l : List (Pattern × α)) : Option α :=
  l.findSome? fun
    | ([], a) => some a
    | _ => none

/-- What belongs to the pattern that goes first among those that fit the pieces. -/
def select? {α : Type u} (l : List (Pattern × α)) : List String → Option α
  | [] => finished? l
  | piece :: rest =>
    if l.isEmpty then none
    else
      (select? (afterLiteral piece l) rest).or <|
        -- Behind a final slash there is nothing for a parameter or a catch-all to take.
        if piece = "" ∧ rest = [] then none
        else (select? (afterParameter l) rest).or (catchAll? l)

/-- The pieces that the parameters of a pattern take, by name. -/
def Pattern.bind : Pattern → List String → List (String × String)
  | .literal _ :: pattern, _ :: pieces => Pattern.bind pattern pieces
  | .parameter name :: pattern, piece :: pieces => (name, piece) :: Pattern.bind pattern pieces
  | .rest name :: _, pieces => [(name, Text.joinWith '/' pieces)]
  | _, _ => []

end SearchGateway.Routing
