import SearchGateway.Settings.Decoding
import SearchGateway.Settings.Validation
import SearchGateway.Toml.Reader
import SearchGateway.Toml.Tree
import SearchGateway.Toml.Writer

/-!
# Settings files

A settings file is a TOML document. It holds every setting, so that a file that has been written
also shows the defaults; lists of groups stand behind the single values.
-/

namespace SearchGateway

open Toml (Statement Value)

/-- Why settings cannot be loaded or saved. -/
inductive FileError where
  | unreadable
  | unfit
  | invalid (flaw : SettingsFlaw)
deriving DecidableEq, Repr

namespace Settings

/-! ## Writing -/

def textValues (l : List String) : Value :=
  .array (l.map .text)

/-- An assignment to a name of the open table. -/
def assignment (name : String) (value : Value) : Statement :=
  .assign [name] value

/-- An assignment of the empty list, which stands in place of an empty list of groups. -/
def emptyGroups {α : Type} (name : String) (l : List α) : List Statement :=
  if l.isEmpty then [assignment name (.array [])] else []

def serverStatements (s : ServerSettings) : List Statement := [
  .table ["server"],
  assignment "bind_addr" (.text s.bindAddress),
  assignment "max_body_size" (.integer s.maxBodySize),
  assignment "request_timeout_secs" (.integer s.requestTimeout),
  .table ["server", "cors"],
  assignment "enabled" (.truth s.origins.enabled),
  assignment "origins" (textValues s.origins.origins)]

def apiKeyStatements (k : Security.ApiKey) : List Statement := [
  .tableItem ["security", "api_keys"],
  assignment "key" (.text k.key),
  assignment "name" (.text k.name),
  assignment "roles" (textValues k.roles)]

def userStatements (u : Security.User) : List Statement := [
  .tableItem ["security", "users"],
  assignment "name" (.text u.name),
  assignment "password_sha256" (.text u.passwordDigest),
  assignment "roles" (textValues u.roles)]

def roleStatements (roles : Keyed (List String)) : List Statement :=
  if roles.entries.isEmpty then [.table ["security", "roles"]]
  else roles.entries.flatMap fun role => [
    .table ["security", "roles", role.1],
    assignment "permissions" (textValues role.2)]

def securityStatements (s : Security.Settings) : List Statement :=
  [.table ["security"], assignment "enabled" (.truth s.enabled)] ++
    emptyGroups "api_keys" s.apiKeys ++ emptyGroups "users" s.users ++
    s.apiKeys.flatMap apiKeyStatements ++ s.users.flatMap userStatements ++
    roleStatements s.roles ++ [.table ["security", "operations"]] ++
    s.overrides.entries.map fun entry => assignment entry.1 (.text entry.2)

def clusterStatements (s : ClusterSettings) : List Statement := [
  .table ["compat"],
  assignment "cluster_name" (.text s.clusterName),
  assignment "node_name" (.text s.nodeName),
  assignment "cluster_uuid" (.text s.clusterUuid),
  assignment "version_number" (.text s.versionNumber)]

def observabilityStatements (s : ObservabilitySettings) : List Statement := [
  .table ["observability"],
  assignment "log_format" (.text s.logFormat),
  assignment "log_level" (.text s.logLevel),
  assignment "metrics_enabled" (.truth s.metricsEnabled)]

def engineStatements (s : EngineSettings) : List Statement := [
  .table ["upstream"],
  assignment "url" (.text s.url),
  assignment "timeout_ms" (.integer s.timeout)]

def indexStatements (e : Registry.IndexEntry) : List Statement := [
  .tableItem ["indices"],
  assignment "name" (.text e.name),
  assignment "aliases" (textValues e.aliases)]

def statements (s : Settings) : List Statement :=
  emptyGroups "indices" s.indices ++ serverStatements s.server ++
    securityStatements s.security ++ clusterStatements s.cluster ++
    observabilityStatements s.observability ++ engineStatements s.engine ++
    s.indices.flatMap indexStatements

/-- Whether every number has a place in the format, whose integers have a sign and 64 bits. -/
def isWritable (s : Settings) : Bool :=
  [s.server.maxBodySize, s.server.requestTimeout, s.engine.timeout].all (· < Nat.pow 2 63)

/-- The text of a file with the settings. -/
def save (s : Settings) : Except FileError String :=
  if s.isWritable then .ok (Toml.write s.statements) else .error .unfit

/-! ## Reading -/

/-- The settings that the text of a file holds, valid or not. -/
def parse? (content : String) : Option Settings := do
  let statements ← Toml.read? content
  let document ← Toml.build? statements
  ofDocument? .ignored document

/-- The settings that the content of a file holds, if they are valid. -/
def load (content : Bytes) : Except FileError Settings := do
  match Text.Utf8.decode? content with
  | none => throw .unreadable
  | some text =>
    match parse? text with
    | none => throw .unfit
    | some settings =>
      (settings.validate).mapError .invalid
      return settings

/-- The settings in a file; where there is no file, the defaults and the file that holds them. -/
def loadOrCreate (content : Option Bytes) : Except FileError Settings × Option Bytes :=
  match content with
  | some bytes => (load bytes, some bytes)
  | none =>
    (.ok {}, (({} : Settings).save.toOption).map Text.Utf8.encode)

end Settings

end SearchGateway
