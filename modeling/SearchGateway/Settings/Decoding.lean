import SearchGateway.Json.Basic
import SearchGateway.Settings.Basic

/-!
# Settings from documents

Settings are read from a document. Fields that no setting is named after are ignored, and a
missing field has its default; but a field that is there has to fit. A group of settings may also be
given as an array of the values in their order.
-/

namespace SearchGateway.Settings

/-- How strictly a group that is given as an array is read: whether it may have values to spare. -/
inductive Spare where
  | refused
  | ignored
deriving DecidableEq, Repr

/-- The values of a group of settings by name. -/
abbrev Group := String → Option Json

/-- The group with these names that a document is. -/
def group? (spare : Spare) (names : List String) : Json → Option Group
  | .object fields => some fun name => Json.field? (.object fields) name
  | .array items =>
    if spare = .refused ∧ names.length < items.length then none
    else some fun name => ((names.zip items).find? (·.1 == name)).map (·.2)
  | _ => none

def text? : Json → Option String
  | .string s => some s
  | _ => none

def truth? : Json → Option Bool
  | .bool b => some b
  | _ => none

/-- A number of 64 bits without a sign. -/
def count? : Json → Option Nat
  | .int n => if 0 ≤ n ∧ n < Int.pow 2 64 then some n.toNat else none
  | _ => none

def list? {α : Type} (item? : Json → Option α) : Json → Option (List α)
  | .array items => items.mapM item?
  | _ => none

def map? {α : Type} (item? : Json → Option α) : Json → Option (Keyed α)
  | .object fields =>
    (fields.mapM fun (field : String × Json) => (item? field.2).map ((field.1, ·))).map
      Keyed.ofList
  | _ => none

/-- The value of a name, or its default. -/
def Group.get {α : Type} (g : Group) (name : String) (read? : Json → Option α) (default : α) :
    Option α :=
  match g name with
  | some value => read? value
  | none => some default

/-- The value of a name that has no default. -/
def Group.require {α : Type} (g : Group) (name : String) (read? : Json → Option α) : Option α :=
  (g name).bind read?

variable (spare : Spare)

def origins? (document : Json) : Option Http.OriginPolicy := do
  let g ← group? spare ["enabled", "origins"] document
  let enabled ← g.get "enabled" truth? true
  let origins ← g.get "origins" (list? text?) ["*"]
  return { enabled, origins }

def server? (document : Json) : Option ServerSettings := do
  let defaults : ServerSettings := {}
  let g ← group? spare ["bind_addr", "cors", "max_body_size", "request_timeout_secs"] document
  let bindAddress ← g.get "bind_addr" text? defaults.bindAddress
  let origins ← g.get "cors" (origins? spare) defaults.origins
  let maxBodySize ← g.get "max_body_size" count? defaults.maxBodySize
  let requestTimeout ← g.get "request_timeout_secs" count? defaults.requestTimeout
  return { bindAddress, origins, maxBodySize, requestTimeout }

def apiKey? (document : Json) : Option Security.ApiKey := do
  let g ← group? spare ["key", "name", "roles"] document
  let key ← g.require "key" text?
  let name ← g.require "name" text?
  let roles ← g.get "roles" (list? text?) []
  return { key, name, roles }

def user? (document : Json) : Option Security.User := do
  let g ← group? spare ["name", "password_sha256", "roles"] document
  let name ← g.require "name" text?
  let passwordDigest ← g.require "password_sha256" text?
  let roles ← g.get "roles" (list? text?) []
  return { name, passwordDigest, roles }

def permissions? (document : Json) : Option (List String) := do
  let g ← group? spare ["permissions"] document
  g.get "permissions" (list? text?) []

def security? (document : Json) : Option Security.Settings := do
  let g ← group? spare ["enabled", "api_keys", "users", "roles", "operations"] document
  let enabled ← g.get "enabled" truth? true
  let apiKeys ← g.get "api_keys" (list? (apiKey? spare)) []
  let users ← g.get "users" (list? (user? spare)) []
  let roles ← g.get "roles" (map? (permissions? spare)) .empty
  let overrides ← g.get "operations" (map? text?) .empty
  return { enabled, apiKeys, users, roles, overrides }

def cluster? (document : Json) : Option ClusterSettings := do
  let defaults : ClusterSettings := {}
  let g ← group? spare ["cluster_name", "node_name", "cluster_uuid", "version_number"] document
  let clusterName ← g.get "cluster_name" text? defaults.clusterName
  let nodeName ← g.get "node_name" text? defaults.nodeName
  let clusterUuid ← g.get "cluster_uuid" text? defaults.clusterUuid
  let versionNumber ← g.get "version_number" text? defaults.versionNumber
  return { clusterName, nodeName, clusterUuid, versionNumber }

def observability? (document : Json) : Option ObservabilitySettings := do
  let defaults : ObservabilitySettings := {}
  let g ← group? spare ["log_format", "log_level", "metrics_enabled"] document
  let logFormat ← g.get "log_format" text? defaults.logFormat
  let logLevel ← g.get "log_level" text? defaults.logLevel
  let metricsEnabled ← g.get "metrics_enabled" truth? defaults.metricsEnabled
  return { logFormat, logLevel, metricsEnabled }

def engine? (document : Json) : Option EngineSettings := do
  let defaults : EngineSettings := {}
  let g ← group? spare ["url", "timeout_ms"] document
  let url ← g.get "url" text? defaults.url
  let timeout ← g.get "timeout_ms" count? defaults.timeout
  return { url, timeout }

def index? (document : Json) : Option Registry.IndexEntry := do
  let g ← group? spare ["name", "aliases"] document
  let name ← g.require "name" text?
  let aliases ← g.get "aliases" (list? text?) []
  return { name, aliases }

/-- The settings that a document holds. -/
def ofDocument? (document : Json) : Option Settings := do
  let g ← group? spare
    ["server", "security", "compat", "observability", "upstream", "indices"] document
  let server ← g.get "server" (server? spare) {}
  let security ← g.get "security" (security? spare) {}
  let cluster ← g.get "compat" (cluster? spare) {}
  let observability ← g.get "observability" (observability? spare) {}
  let engine ← g.get "upstream" (engine? spare) {}
  let indices ← g.get "indices" (list? (index? spare)) []
  return { server, security, cluster, observability, engine, indices }

end SearchGateway.Settings
