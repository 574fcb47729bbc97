import SearchGateway.Gateway.Relay
import SearchGateway.Gateway.Server
import SearchGateway.Routing.Standard
import SearchGateway.Settings.Basic

/-!
# Setting up a server
-/

namespace SearchGateway.Gateway

/-- Why a server cannot be set up. -/
inductive SetupError where
  | indices (error : Registry.WriteError)
  | operations (error : Security.RequirementError)
  | routes (error : Routing.DuplicateRoute)
  | methods (error : UnsupportedMethod)
deriving DecidableEq, Repr

def SetupError.message : SetupError → String
  | .indices error => error.message
  | .operations error => error.message
  | .routes error => error.message
  | .methods error => error.message

/-- What requests are served with under these settings. -/
def Service.ofSettings (settings : Settings) (handler : Handler) (guard : Security.Guard) :
    Service where
  handler
  guard
  cluster := settings.cluster.cluster
  maxBodySize := settings.server.maxBodySize

/-- A router over a table whose methods can all be mounted. -/
def Router.mount (service : Service) (table : Routing.Table) : Except SetupError Router := do
  (checkMethods table).mapError .methods
  return { service, table }

/-- A server over the standard routes. -/
def Server.standard (settings : Settings) (service : Service) (metrics : Bool) :
    Except SetupError Server := do
  let table ← Routing.Table.standard.mapError .routes
  let router ← Router.mount service table
  return {
    router
    origins := settings.server.origins
    timeout := settings.server.deadline
    metrics }

/-- The registry of the indices in the settings. -/
def seedIndices (settings : Settings) : Except SetupError Registry.Snapshot :=
  (Registry.seed settings.indices).mapError .indices

/-- The guard of the settings, with a verifier of its own if one is given. -/
def guardOf (settings : Settings) (verifier : Option Security.Verifier) :
    Except SetupError Security.Guard :=
  (match verifier with
    | some verifier => Security.Guard.withVerifier settings.security verifier
    | none => Security.Guard.ofSettings settings.security).mapError .operations

end SearchGateway.Gateway
