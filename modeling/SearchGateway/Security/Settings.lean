import SearchGateway.Keyed

/-!
# Accounts, roles and overrides
-/

namespace SearchGateway.Security

/-- A key that a caller may present, with the name and the roles it stands for. -/
structure ApiKey where
  key : String
  name : String
  roles : List String
deriving DecidableEq, Repr

/-- A user with the digest of the password in hexadecimal digits. -/
structure User where
  name : String
  passwordDigest : String
  roles : List String
deriving DecidableEq, Repr

/-- Who may call, what each role permits, and the operations that need another permission. -/
structure Settings where
  enabled : Bool := true
  apiKeys : List ApiKey := []
  users : List User := []
  roles : Keyed (List String) := .empty
  overrides : Keyed String := .empty
deriving DecidableEq

instance : Inhabited Settings := ⟨{}⟩

end SearchGateway.Security
