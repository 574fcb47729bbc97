import SearchGateway.Json.Basic
import SearchGateway.Settings.Basic

/-!
# Settings as documents
-/

namespace SearchGateway

def ServerSettings.toJson (s : ServerSettings) : Json :=
  .object [
    ("bind_addr", .string s.bindAddress),
    ("cors", .object [
      ("enabled", .bool s.origins.enabled),
      ("origins", .ofTexts s.origins.origins)]),
    ("max_body_size", .int s.maxBodySize),
    ("request_timeout_secs", .int s.requestTimeout)]

def Security.ApiKey.toJson (k : Security.ApiKey) : Json :=
  .object [("key", .string k.key), ("name", .string k.name), ("roles", .ofTexts k.roles)]

def Security.User.toJson (u : Security.User) : Json :=
  .object [
    ("name", .string u.name),
    ("password_sha256", .string u.passwordDigest),
    ("roles", .ofTexts u.roles)]

def Security.Settings.toJson (s : Security.Settings) : Json :=
  .object [
    ("enabled", .bool s.enabled),
    ("api_keys", .array (s.apiKeys.map (·.toJson))),
    ("users", .array (s.users.map (·.toJson))),
    ("roles", .ofKeyed (s.roles.map fun permissions =>
      .object [("permissions", .ofTexts permissions)])),
    ("operations", .ofKeyed (s.overrides.map .string))]

def ClusterSettings.toJson (s : ClusterSettings) : Json :=
  .object [
    ("cluster_name", .string s.clusterName),
    ("node_name", .string s.nodeName),
    ("cluster_uuid", .string s.clusterUuid),
    ("version_number", .string s.versionNumber)]

def ObservabilitySettings.toJson (s : ObservabilitySettings) : Json :=
  .object [
    ("log_format", .string s.logFormat),
    ("log_level", .string s.logLevel),
    ("metrics_enabled", .bool s.metricsEnabled)]

def EngineSettings.toJson (s : EngineSettings) : Json :=
  .object [("url", .string s.url), ("timeout_ms", .int s.timeout)]

def Registry.IndexEntry.toJson (e : Registry.IndexEntry) : Json :=
  .object [("name", .string e.name), ("aliases", .ofTexts e.aliases)]

def Settings.toJson (s : Settings) : Json :=
  .object [
    ("server", s.server.toJson),
    ("security", s.security.toJson),
    ("compat", s.cluster.toJson),
    ("observability", s.observability.toJson),
    ("upstream", s.engine.toJson),
    ("indices", .array (s.indices.map (·.toJson)))]

end SearchGateway
