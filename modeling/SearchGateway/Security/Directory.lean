import SearchGateway.Security.Credential
import SearchGateway.Security.Settings
import SearchGateway.Text.Case
import SearchGateway.Text.Digest

/-!
# Verifying credentials

The directory holds the accounts of the settings. Of entries for one key or one user name the
last one counts.
-/

namespace SearchGateway.Security

/-- A caller whose credential has been verified. -/
structure Identity where
  name : String
  roles : List String
  keyHint : String
deriving DecidableEq, Repr

/-- The number of characters of a key that may be shown. -/
def hintLength : Nat := 13

/-- The beginning of a key, by which its owner can tell it. -/
def keyHint (key : String) : String :=
  if hintLength < key.toList.length then String.ofList (key.toList.take hintLength) ++ "..."
  else key

/-- The digest of a password as settings keep it. -/
def passwordDigest (password : String) : String :=
  Text.Digest.sha256Hex password

/-- Decides whose credential it is, if anyone's. -/
abbrev Verifier := Credential → Option Identity

/-- The accounts of the settings by key and by user name. -/
structure Directory where
  keys : Keyed ApiKey
  users : Keyed User

namespace Directory

def ofSettings (settings : Settings) : Directory where
  keys := .ofList (settings.apiKeys.map fun entry => (entry.key, entry))
  users := .ofList (settings.users.map fun entry => (entry.name, entry))

def verify (d : Directory) : Verifier
  | .apiKey key =>
    (d.keys.get? key).map fun entry => ⟨entry.name, entry.roles, keyHint key⟩
  | .basic user password => do
    let entry ← d.users.get? user
    if Text.lowered entry.passwordDigest = passwordDigest password then
      some ⟨user, entry.roles, ""⟩
    else none

end Directory

end SearchGateway.Security
