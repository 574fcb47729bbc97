import SearchGateway.Registry.Snapshot

/-!
# Policies for target expressions

A policy says what an expression may select. Reads of many indices accept an empty selection,
operations on existing indices do not, and writes take each name as one index, which may be new.
-/

namespace SearchGateway.Registry

/-- What an expression has to select. -/
inductive Policy where
  | tolerant
  | required
  | create
deriving DecidableEq, Repr

def Policy.token : Policy → String
  | .tolerant => "tolerant"
  | .required => "required"
  | .create => "create"

/-- Why a policy refuses an expression. -/
inductive TargetError where
  | nothingSelected (expression : String)
  | wildcard (token : String)
  | severalMembers (name : String)
  | noTarget (expression : String)
deriving DecidableEq, Repr

namespace Snapshot

/-- The index that one token of a write names. -/
def writeTarget (s : Snapshot) (token : String) : Except TargetError String :=
  if token = "_all" ∨ '*' ∈ token.toList then .error (.wildcard token)
  else if s.isIndex token then .ok token
  else if s.isAlias token then
    match s.resolveToken token with
    | [index] => .ok index
    | [] => .error (.nothingSelected token)
    | _ => .error (.severalMembers token)
  -- A name that is nothing yet is that of an index to be made.
  else .ok token

/-- The indices that a write names. -/
def writeTargets (s : Snapshot) (expression : String) : Except TargetError (List String) := do
  let targets := (← (tokens expression).mapM s.writeTarget).eraseDups
  if targets.isEmpty then throw (.noTarget expression)
  return targets

/-- The indices that an expression selects under a policy. -/
def select (s : Snapshot) (policy : Policy) (expression : String) :
    Except TargetError (List String) :=
  match policy with
  | .tolerant => .ok (s.resolve expression)
  | .required =>
    let targets := s.resolve expression
    if targets.isEmpty then .error (.nothingSelected expression) else .ok targets
  | .create => s.writeTargets expression

end Snapshot

end SearchGateway.Registry
