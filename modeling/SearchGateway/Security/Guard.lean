import SearchGateway.Security.Directory
import SearchGateway.Security.Requirements
import SearchGateway.Text.Pattern

/-!
# Authorization

A caller passes for an operation if a credential is presented, it is verified, and a role of the
identity permits what the operation needs.
-/

namespace SearchGateway.Security

/-- Whether one of the roles has a pattern that covers the permission. -/
def permits (roles : Keyed (List String)) (held : List String) (permission : String) : Bool :=
  held.any fun role =>
    match roles.get? role with
    | some patterns => patterns.any (Text.covers · permission)
    | none => false

/-- Why a caller is denied. -/
inductive Denial where
  | noCredential
  | unknownCredential
  | forbidden (operation : Operation) (user : String)
deriving DecidableEq, Repr

/-- What decides about callers. -/
structure Guard where
  enabled : Bool
  verifier : Verifier
  roles : Keyed (List String)
  requirements : Requirements

namespace Guard

/-- The guard of the settings with a verifier of its own. -/
def withVerifier (settings : Settings) (verifier : Verifier) : Except RequirementError Guard :=
  (Requirements.build settings.overrides).map fun requirements =>
    { enabled := settings.enabled, verifier, roles := settings.roles, requirements }

def ofSettings (settings : Settings) : Except RequirementError Guard :=
  withVerifier settings (Directory.ofSettings settings).verify

/-- The identity that may perform an operation; nobody in particular if the guard is disabled. -/
def check (g : Guard) (headers : Http.Headers) (operation : Operation) :
    Except Denial (Option Identity) :=
  if !g.enabled then .ok none
  else
    match Credential.ofHeaders? headers with
    | none => .error .noCredential
    | some credential =>
      match g.verifier credential with
      | none => .error .unknownCredential
      | some identity =>
        if permits g.roles identity.roles (g.requirements.permission operation) then
          .ok (some identity)
        else .error (.forbidden operation identity.name)

end Guard

end SearchGateway.Security
