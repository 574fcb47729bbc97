import SearchGateway.Elastic.Cluster
import SearchGateway.Http.Origins
import SearchGateway.Registry.Write
import SearchGateway.Security.Settings

/-!
# Settings

Every setting has a default, except that keys, users and indices have to be named.
-/

namespace SearchGateway

/-- Where the server listens and what it accepts. The timeout is in seconds; none is kept if it is
zero. -/
structure ServerSettings where
  bindAddress : String := "127.0.0.1:4080"
  origins : Http.OriginPolicy := {}
  maxBodySize : Nat := 104857600
  requestTimeout : Nat := 60
deriving DecidableEq, Repr, Inhabited

/-- What the gateway says about itself in the Elasticsearch dialect. -/
structure ClusterSettings where
  clusterName : String := "sift"
  nodeName : String := "sift"
  clusterUuid : String := "sift-es-compat"
  versionNumber : String := "8.1.0"
deriving DecidableEq, Repr, Inhabited

def ClusterSettings.cluster (s : ClusterSettings) : Elastic.Cluster where
  nodeName := s.nodeName
  clusterName := s.clusterName
  clusterUuid := s.clusterUuid
  versionNumber := s.versionNumber

/-- What is logged and whether metrics are shown. -/
structure ObservabilitySettings where
  logFormat : String := "pretty"
  logLevel : String := "info,sift=debug"
  metricsEnabled : Bool := true
deriving DecidableEq, Repr, Inhabited

/-- The engine that does the work. The timeout is in milliseconds. -/
structure EngineSettings where
  url : String := "http://127.0.0.1:4081"
  timeout : Nat := 30000
deriving DecidableEq, Repr, Inhabited

/-- All settings. -/
structure Settings where
  server : ServerSettings := {}
  security : Security.Settings := {}
  cluster : ClusterSettings := {}
  observability : ObservabilitySettings := {}
  engine : EngineSettings := {}
  indices : List Registry.IndexEntry := []
deriving DecidableEq

instance : Inhabited Settings := ⟨{}⟩

/-- The number of seconds that a request may take. -/
def ServerSettings.deadline (s : ServerSettings) : Option Nat :=
  if s.requestTimeout = 0 then none else some s.requestTimeout

end SearchGateway
