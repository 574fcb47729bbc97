import SearchGateway.Keyed
import SearchGateway.Security.Operation
import SearchGateway.Text.Blank

/-!
# Required permissions

Each operation needs the permission named by its own token unless the settings name another one.
The table is built once and has a permission for every operation.
-/

namespace SearchGateway.Security

/-- Why the table cannot be built. -/
inductive RequirementError where
  | unknownOperation (token : String)
  | emptyPermission (operation : Operation)
  | unmapped (operation : Operation)
deriving DecidableEq, Repr

def RequirementError.message : RequirementError → String
  | .unknownOperation token => s!"Unknown operation: {token}"
  | .emptyPermission operation =>
    s!"Config error: empty permission for operation {operation.token}"
  | .unmapped operation => s!"Operation {operation.token} has no permission mapped"

/-- The operation that a token names. -/
def Operation.parse (token : String) : Except RequirementError Operation :=
  match ofToken? token with
  | some operation => .ok operation
  | none => .error (.unknownOperation token)

/-- Whether a table has a permission for an operation. -/
def isMapped (table : Keyed String) (operation : Operation) : Bool :=
  match table.get? operation.token with
  | some permission => permission ≠ ""
  | none => false

/-- The permission that each operation needs. -/
structure Requirements where
  table : Keyed String
  complete : ∀ operation : Operation, isMapped table operation = true

namespace Requirements

def defaults : Keyed String :=
  .ofList (Operation.all.map fun operation => (operation.token, operation.token))

/-- Sets the permission of one operation. -/
def override (table : Keyed String) (entry : String × String) :
    Except RequirementError (Keyed String) := do
  let operation ← Operation.parse entry.1
  let permission := Text.trimmed entry.2
  if permission = "" then throw (.emptyPermission operation)
  return table.insert operation.token permission

/-- The table with these overrides. -/
def build (overrides : Keyed String) : Except RequirementError Requirements := do
  let table ← overrides.entries.foldlM override defaults
  -- The check yields the proof that the table is complete.
  match h : Operation.all.find? (!isMapped table ·) with
  | some operation => throw (.unmapped operation)
  | none =>
    return ⟨table, fun operation => by
      have := List.find?_eq_none.1 h operation (Operation.mem_all operation)
      simpa using this⟩

/-- The permission that an operation needs. -/
def permission (r : Requirements) (operation : Operation) : String :=
  match h : r.table.get? operation.token with
  | some permission => permission
  | none => by
    have := r.complete operation
    simp [isMapped, h] at this

end Requirements

end SearchGateway.Security
