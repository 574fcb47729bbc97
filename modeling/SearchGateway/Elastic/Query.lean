import SearchGateway.Elastic.Failure
import SearchGateway.Keyed
import SearchGateway.Text.Case
import SearchGateway.Text.Numeral

/-!
# Query parameters

Parameters that only change how a response looks are taken out, `refresh` and `op_type` are
brought to a normal form, and paging parameters have to be numbers. Of parameters with one name
the last one counts, but each of them has to be acceptable.
-/

namespace SearchGateway.Elastic

/-- The parameters that only change how a response looks. -/
def presentationNames : List String := ["pretty", "human", "error_trace", "filter_path"]

/-- Why a parameter is refused. -/
inductive ParameterError where
  | badRefresh (value : String)
  | badCount (name value : String)
  | badOpType (value : String)
deriving DecidableEq, Repr

def ParameterError.failure : ParameterError → Failure
  | .badRefresh value => .illegalArgument s!"Unknown value for refresh: [{value}]."
  | .badCount name value =>
    .illegalArgument s!"Failed to parse int parameter [{name}] with value [{value}]"
  | .badOpType value =>
    .illegalArgument s!"opType must be 'create' or 'index', found: [{value}]"

def normalRefresh (value : String) : Except ParameterError String :=
  if value = "" ∨ value = "true" ∨ value = "wait_for" then .ok "true"
  else if value = "false" then .ok "false"
  else .error (.badRefresh value)

def normalOpType (value : String) : Except ParameterError String :=
  let word := Text.lowered value
  if word = "index" ∨ word = "create" then .ok word else .error (.badOpType value)

/-- The normal form of a value for a name that is no presentation parameter. -/
def normalValue (name value : String) : Except ParameterError String :=
  if name = "refresh" then normalRefresh value
  else if name = "from" ∨ name = "size" then
    match Text.unsigned? (Nat.pow 2 64) value with
    -- The number is kept as it is written.
    | some _ => .ok value
    | none => .error (.badCount name value)
  else if name = "op_type" then normalOpType value
  else .ok value

/-- Parameters in normal form, and whether the response is to be indented. -/
structure Query where
  parameters : Keyed String
  pretty : Bool
deriving DecidableEq

namespace Query

def empty : Query := ⟨.empty, false⟩

def add (q : Query) (pair : String × String) : Except ParameterError Query :=
  let (name, value) := pair
  if name ∈ presentationNames then
    .ok (if name = "pretty" then { q with pretty := value ≠ "false" } else q)
  else (normalValue name value).map fun normal =>
    { q with parameters := q.parameters.insert name normal }

/-- The query of a list of pairs. -/
def ofPairs (pairs : List (String × String)) : Except ParameterError Query :=
  pairs.foldlM add empty

end Query

end SearchGateway.Elastic
