import SearchGateway.Proofs.Toml.Reading
import SearchGateway.Proofs.Toml.Tree
import SearchGateway.Settings.File

/-!
# The document of settings

The statements of settings are read back (`isReadBack_statementsWith`), and they build the fields
of the settings group by group (`build?_statementsWith`), in whatever order the entries of the maps
are written.
-/

namespace SearchGateway.Settings

open Toml (AreEntries Builds Fields Place Statement Value assigned assignments group implied listed)

variable {α : Type} {l : List α} {name other : String} {v : Value} {before : Fields}
  {entries : List (String × Value)} {header : Statement} {s : Settings}
  {roles : List (String × List String)} {overrides : List (String × String)}

/-! ## Values -/

/-- A value of a setting. -/
inductive IsSetting : Value → Prop where
  | text (s : String) : IsSetting (.text s)
  | count {n : Nat} (h : n < Nat.pow 2 63) : IsSetting (.integer n)
  | truth (b : Bool) : IsSetting (.truth b)
  | texts (l : List String) : IsSetting (textValues l)

theorem itemsToJson?_texts (l : List String) :
    Toml.itemsToJson? (l.map .text) = some (l.map .string) := by
  induction l with
  | nil => simp [Toml.itemsToJson?]
  | cons s l ih => simp [Toml.itemsToJson?, Value.toJson?, ih]

theorem toJson?_textValues (l : List String) : (textValues l).toJson? = some (.ofTexts l) := by
  rw [textValues, Value.toJson?, itemsToJson?_texts]
  rfl

theorem IsSetting.isSome_toJson? (h : IsSetting v) : v.toJson?.isSome := by
  cases h with
  | texts l => simp [toJson?_textValues]
  | _ => simp [Value.toJson?]

theorem IsSetting.isReadBack (h : IsSetting v) : Toml.IsReadBack (Toml.maxDepth - 1) v := by
  cases h with
  | text s => exact Toml.isReadBack_text s
  | count h => exact Toml.isReadBack_nat h
  | truth b => exact Toml.isReadBack_truth b
  | texts l =>
      have hitems : ∀ item ∈ l.map Value.text, Toml.IsReadBack (Toml.maxDepth - 2) item :=
        List.forall_mem_map.2 fun s _ => Toml.isReadBack_text s
      exact Toml.isReadBack_array hitems

/-! ## Entries -/

/-- The entries of a group of settings. -/
structure AreSettings (entries : List (String × Value)) : Prop where
  nodup : (entries.map (·.1)).Nodup
  setting : ∀ entry ∈ entries, IsSetting entry.2

theorem AreSettings.areEntries (h : AreSettings entries) : AreEntries entries :=
  ⟨h.nodup, fun entry hentry => (h.setting entry hentry).isSome_toJson?⟩

theorem AreSettings.isReadBack_assignments (h : AreSettings entries) :
    ∀ statement ∈ assignments entries, statement.IsReadBack :=
  List.forall_mem_map.2 fun entry hentry =>
    ⟨by simp, Nat.one_lt_succ_succ _, (h.setting entry hentry).isReadBack⟩

/-- A group of settings is read back. -/
theorem AreSettings.isReadBack (h : AreSettings entries) (hheader : header.IsReadBack) :
    ∀ statement ∈ group header entries, statement.IsReadBack :=
  List.forall_mem_cons.2 ⟨hheader, h.isReadBack_assignments⟩

/-- The entry that stands in place of a list of groups, if there are none. -/
def emptyEntry (name : String) (l : List α) : List (String × Value) :=
  if l.isEmpty then [(name, .array [])] else []

def serverEntries (s : ServerSettings) : List (String × Value) := [
  ("bind_addr", .text s.bindAddress),
  ("max_body_size", .integer s.maxBodySize),
  ("request_timeout_secs", .integer s.requestTimeout)]

def originEntries (p : Http.OriginPolicy) : List (String × Value) := [
  ("enabled", .truth p.enabled),
  ("origins", textValues p.origins)]

def apiKeyEntries (k : Security.ApiKey) : List (String × Value) := [
  ("key", .text k.key),
  ("name", .text k.name),
  ("roles", textValues k.roles)]

def userEntries (u : Security.User) : List (String × Value) := [
  ("name", .text u.name),
  ("password_sha256", .text u.passwordDigest),
  ("roles", textValues u.roles)]

def roleEntries (permissions : List String) : List (String × Value) :=
  [("permissions", textValues permissions)]

/-- The entries about accounts and roles that are no groups, or stand in place of some. -/
def securityEntries (s : Security.Settings) : List (String × Value) :=
  ("enabled", .truth s.enabled) ::
    (emptyEntry "api_keys" s.apiKeys ++ emptyEntry "users" s.users)

/-- The entries for operations that need another permission. -/
def overrideEntries (overrides : List (String × String)) : List (String × Value) :=
  overrides.map fun entry => (entry.1, .text entry.2)

def clusterEntries (s : ClusterSettings) : List (String × Value) := [
  ("cluster_name", .text s.clusterName),
  ("node_name", .text s.nodeName),
  ("cluster_uuid", .text s.clusterUuid),
  ("version_number", .text s.versionNumber)]

def observabilityEntries (s : ObservabilitySettings) : List (String × Value) := [
  ("log_format", .text s.logFormat),
  ("log_level", .text s.logLevel),
  ("metrics_enabled", .truth s.metricsEnabled)]

def engineEntries (s : EngineSettings) : List (String × Value) := [
  ("url", .text s.url),
  ("timeout_ms", .integer s.timeout)]

def indexEntries (e : Registry.IndexEntry) : List (String × Value) := [
  ("name", .text e.name),
  ("aliases", textValues e.aliases)]

theorem isSetting_empty : IsSetting (.array []) :=
  .texts []

theorem areSettings_empty : AreSettings (emptyEntry name l) where
  nodup := by unfold emptyEntry; split <;> simp
  setting := by unfold emptyEntry; split <;> simp [isSetting_empty]

theorem areSettings_server {s : ServerSettings} (hsize : s.maxBodySize < Nat.pow 2 63)
    (htimeout : s.requestTimeout < Nat.pow 2 63) : AreSettings (serverEntries s) where
  nodup := by simp [serverEntries]
  setting := by
    simp [serverEntries, IsSetting.text, IsSetting.count hsize, IsSetting.count htimeout]

theorem areSettings_origins (p : Http.OriginPolicy) : AreSettings (originEntries p) where
  nodup := by simp [originEntries]
  setting := by simp [originEntries, IsSetting.truth, IsSetting.texts]

theorem areSettings_apiKey (k : Security.ApiKey) : AreSettings (apiKeyEntries k) where
  nodup := by simp [apiKeyEntries]
  setting := by simp [apiKeyEntries, IsSetting.text, IsSetting.texts]

theorem areSettings_user (u : Security.User) : AreSettings (userEntries u) where
  nodup := by simp [userEntries]
  setting := by simp [userEntries, IsSetting.text, IsSetting.texts]

theorem areSettings_role (permissions : List String) : AreSettings (roleEntries permissions) where
  nodup := by simp [roleEntries]
  setting := by simp [roleEntries, IsSetting.texts]

theorem areSettings_security (s : Security.Settings) : AreSettings (securityEntries s) where
  nodup := by simp only [securityEntries, emptyEntry]; split <;> split <;> simp
  setting := by
    simp only [securityEntries, emptyEntry]
    split <;> split <;> simp [IsSetting.truth, isSetting_empty]

theorem areSettings_overrides (hnodup : (overrides.map (·.1)).Nodup) :
    AreSettings (overrideEntries overrides) where
  nodup := by simpa [overrideEntries, Function.comp_def] using hnodup
  setting := by
    intro entry hentry
    obtain ⟨override, -, rfl⟩ := List.mem_map.1 hentry
    exact .text override.2

theorem areSettings_cluster (s : ClusterSettings) : AreSettings (clusterEntries s) where
  nodup := by simp [clusterEntries]
  setting := by simp [clusterEntries, IsSetting.text]

theorem areSettings_observability (s : ObservabilitySettings) :
    AreSettings (observabilityEntries s) where
  nodup := by simp [observabilityEntries]
  setting := by simp [observabilityEntries, IsSetting.text, IsSetting.truth]

theorem areSettings_engine {s : EngineSettings} (htimeout : s.timeout < Nat.pow 2 63) :
    AreSettings (engineEntries s) where
  nodup := by simp [engineEntries]
  setting := by simp [engineEntries, IsSetting.text, IsSetting.count htimeout]

theorem areSettings_index (e : Registry.IndexEntry) : AreSettings (indexEntries e) where
  nodup := by simp [indexEntries]
  setting := by simp [indexEntries, IsSetting.text, IsSetting.texts]

/-! ## Statements -/

/-- The groups of the roles, in this order. -/
def roleGroups (roles : List (String × List String)) : List Statement :=
  if roles.isEmpty then group (.table ["security", "roles"]) []
  else roles.flatMap fun role => group (.table ["security", "roles", role.1]) (roleEntries role.2)

/-- The groups of the settings about accounts and roles, with the entries of the maps in this
order. -/
def securityGroups (s : Security.Settings) (roles : List (String × List String))
    (overrides : List (String × String)) : List Statement :=
  group (.table ["security"]) (securityEntries s) ++
    (s.apiKeys.map apiKeyEntries).flatMap (group (.tableItem ["security", "api_keys"])) ++
    (s.users.map userEntries).flatMap (group (.tableItem ["security", "users"])) ++
    roleGroups roles ++
    group (.table ["security", "operations"]) (overrideEntries overrides)

/-- The groups of all settings, with the entries of the maps in this order. -/
def groupsWith (s : Settings) (roles : List (String × List String))
    (overrides : List (String × String)) : List Statement :=
  group (.table ["server"]) (serverEntries s.server) ++
    group (.table ["server", "cors"]) (originEntries s.server.origins) ++
    securityGroups s.security roles overrides ++
    group (.table ["compat"]) (clusterEntries s.cluster) ++
    group (.table ["observability"]) (observabilityEntries s.observability) ++
    group (.table ["upstream"]) (engineEntries s.engine) ++
    (s.indices.map indexEntries).flatMap (group (.tableItem ["indices"]))

/-- The statements of all settings, with the entries of the maps in this order. -/
def statementsWith (s : Settings) (roles : List (String × List String))
    (overrides : List (String × String)) : List Statement :=
  assignments (emptyEntry "indices" s.indices) ++ s.groupsWith roles overrides

theorem emptyGroups_eq (l : List α) : emptyGroups name l = assignments (emptyEntry name l) := by
  unfold emptyGroups emptyEntry
  split <;> rfl

theorem securityStatements_eq (s : Security.Settings) :
    securityStatements s = securityGroups s s.roles.entries s.overrides.entries := by
  have hfirst : [.table ["security"], assignment "enabled" (.truth s.enabled)] ++
      emptyGroups "api_keys" s.apiKeys ++ emptyGroups "users" s.users =
        group (.table ["security"]) (securityEntries s) := by
    simp [emptyGroups_eq, group, assignments, securityEntries, assignment]
  have hoverrides : s.overrides.entries.map (fun entry => assignment entry.1 (.text entry.2)) =
      assignments (overrideEntries s.overrides.entries) := by
    simp [assignments, overrideEntries, assignment]
  rw [securityStatements, hfirst, hoverrides, List.append_assoc _ [_], securityGroups,
    List.flatMap_map, List.flatMap_map]
  rfl

/-- The writer has the entries in the order of their keys. -/
theorem statements_eq (s : Settings) :
    s.statements = s.statementsWith s.security.roles.entries s.security.overrides.entries := by
  have hserver : serverStatements s.server = group (.table ["server"]) (serverEntries s.server) ++
      group (.table ["server", "cors"]) (originEntries s.server.origins) := rfl
  rw [statements, emptyGroups_eq, hserver, securityStatements_eq, statementsWith, groupsWith,
    List.flatMap_map]
  simp only [List.append_assoc]
  rfl

/-! ### Reading them back -/

theorem isWritable_iff : s.isWritable ↔ s.server.maxBodySize < Nat.pow 2 63 ∧
    s.server.requestTimeout < Nat.pow 2 63 ∧ s.engine.timeout < Nat.pow 2 63 := by
  simp [isWritable]

theorem isReadBack_items {groups : List (List (String × Value))} (hheader : header.IsReadBack)
    (hgroups : ∀ entries ∈ groups, AreSettings entries) :
    ∀ statement ∈ groups.flatMap (group header), statement.IsReadBack := by
  intro statement hstatement
  obtain ⟨entries, hentries, hstatement⟩ := List.mem_flatMap.1 hstatement
  exact (hgroups entries hentries).isReadBack hheader statement hstatement

theorem isReadBack_roleGroups : ∀ statement ∈ roleGroups roles, statement.IsReadBack := by
  have hheader : (Statement.table ["security", "roles"]).IsReadBack := ⟨by decide, by decide⟩
  unfold roleGroups
  split
  · exact List.forall_mem_singleton.2 hheader
  · intro statement hstatement
    obtain ⟨role, -, hstatement⟩ := List.mem_flatMap.1 hstatement
    have hrole : (Statement.table ["security", "roles", role.1]).IsReadBack :=
      ⟨by simp, by simp [Toml.maxDepth]⟩
    exact (areSettings_role role.2).isReadBack hrole statement hstatement

theorem isReadBack_securityGroups {s : Security.Settings}
    (hoverrides : (overrides.map (·.1)).Nodup) :
    ∀ statement ∈ securityGroups s roles overrides, statement.IsReadBack := by
  have hkeys : ∀ entries ∈ s.apiKeys.map apiKeyEntries, AreSettings entries :=
    List.forall_mem_map.2 fun k _ => areSettings_apiKey k
  have husers : ∀ entries ∈ s.users.map userEntries, AreSettings entries :=
    List.forall_mem_map.2 fun u _ => areSettings_user u
  simp only [securityGroups, List.forall_mem_append]
  refine ⟨⟨⟨⟨?_, ?_⟩, ?_⟩, isReadBack_roleGroups⟩, ?_⟩
  · exact (areSettings_security s).isReadBack ⟨by decide, by decide⟩
  · exact isReadBack_items ⟨by decide, by decide⟩ hkeys
  · exact isReadBack_items ⟨by decide, by decide⟩ husers
  · exact (areSettings_overrides hoverrides).isReadBack ⟨by decide, by decide⟩

/-- Every statement of settings is read back. -/
theorem isReadBack_statementsWith (hwritable : s.isWritable)
    (hoverrides : (overrides.map (·.1)).Nodup) :
    ∀ statement ∈ s.statementsWith roles overrides, statement.IsReadBack := by
  obtain ⟨hsize, hrequest, hengine⟩ := isWritable_iff.1 hwritable
  have hempty : AreSettings (emptyEntry "indices" s.indices) := areSettings_empty
  have hindices : ∀ entries ∈ s.indices.map indexEntries, AreSettings entries :=
    List.forall_mem_map.2 fun e _ => areSettings_index e
  simp only [statementsWith, groupsWith, List.forall_mem_append]
  refine ⟨?_, ⟨⟨⟨⟨⟨?_, ?_⟩, isReadBack_securityGroups hoverrides⟩, ?_⟩, ?_⟩, ?_⟩, ?_⟩
  · exact hempty.isReadBack_assignments
  · exact (areSettings_server hsize hrequest).isReadBack ⟨by decide, by decide⟩
  · exact (areSettings_origins s.server.origins).isReadBack ⟨by decide, by decide⟩
  · exact (areSettings_cluster s.cluster).isReadBack ⟨by decide, by decide⟩
  · exact (areSettings_observability s.observability).isReadBack ⟨by decide, by decide⟩
  · exact (areSettings_engine hengine).isReadBack ⟨by decide, by decide⟩
  · exact isReadBack_items ⟨by decide, by decide⟩ hindices

/-! ## Fields -/

def serverFields (s : ServerSettings) : Fields :=
  assigned (serverEntries s) ++ [("cors", .table .header (assigned (originEntries s.origins)))]

def roleFields (roles : List (String × List String)) : Fields :=
  [("roles", .table (if roles.isEmpty then .header else .implied)
    (roles.map fun role => (role.1, .table .header (assigned (roleEntries role.2)))))]

def securityFields (s : Security.Settings) (roles : List (String × List String))
    (overrides : List (String × String)) : Fields :=
  assigned (securityEntries s) ++
    listed "api_keys" ((s.apiKeys.map apiKeyEntries).map assigned) ++
    listed "users" ((s.users.map userEntries).map assigned) ++
    roleFields roles ++
    [("operations", .table .header (assigned (overrideEntries overrides)))]

/-- The fields of all settings. -/
def fieldsWith (s : Settings) (roles : List (String × List String))
    (overrides : List (String × String)) : Fields :=
  assigned (emptyEntry "indices" s.indices) ++
    [("server", .table .header (serverFields s.server))] ++
    [("security", .table .header (securityFields s.security roles overrides))] ++
    [("compat", .table .header (assigned (clusterEntries s.cluster)))] ++
    [("observability", .table .header (assigned (observabilityEntries s.observability)))] ++
    [("upstream", .table .header (assigned (engineEntries s.engine)))] ++
    listed "indices" ((s.indices.map indexEntries).map assigned)

theorem get?_assigned_emptyEntry (h : l ≠ [] ∨ name ≠ other) :
    Fields.get? (assigned (emptyEntry name l)) other = none := by
  cases l with
  | nil => simpa [emptyEntry, assigned, Fields.get?_cons] using h
  | cons first others => simp [emptyEntry, assigned]

theorem get?_listed {tables : List Fields} (h : name ≠ other) :
    Fields.get? (listed name tables) other = none := by
  cases tables <;> simp [listed, Fields.get?_cons, h]

theorem builds_group (hsettings : AreSettings entries) (hnew : before.get? name = none) :
    Builds (group (.table [name]) entries) before
      (before ++ [(name, .table .header (assigned entries))]) :=
  Place.root.builds_table hsettings.areEntries hnew

/-! ### The server -/

theorem builds_server {s : ServerSettings} (hsize : s.maxBodySize < Nat.pow 2 63)
    (hrequest : s.requestTimeout < Nat.pow 2 63) (hnew : before.get? "server" = none) :
    Builds (group (.table ["server"]) (serverEntries s) ++
        group (.table ["server", "cors"]) (originEntries s.origins)) before
      (before ++ [("server", .table .header (serverFields s))]) := by
  have hcors : Fields.get? (assigned (serverEntries s)) "cors" = none := by
    simp [serverEntries, assigned, Fields.get?_cons]
  exact (builds_group (areSettings_server hsize hrequest) hnew).append
    ((Place.root.last before "server" .header hnew).builds_table
      (areSettings_origins s.origins).areEntries hcors)

/-! ### Accounts and roles -/

theorem builds_roleGroups {p : Place} {inner : Fields} (hpath : p.path = ["security"])
    (hroles : (roles.map (·.1)).Nodup) (hnew : inner.get? "roles" = none) :
    Builds (roleGroups roles) (p.put inner) (p.put (inner ++ roleFields roles)) := by
  by_cases hnil : roles = []
  · have hnone : AreEntries [] := ⟨by simp, by simp⟩
    have hempty := p.builds_table hnone hnew
    simpa [hnil, roleGroups, roleFields, hpath, assigned] using hempty
  · have hempty : roles.isEmpty = false := by simpa using hnil
    have hnodup : ((roles.map fun role => (role.1, roleEntries role.2)).map (·.1)).Nodup := by
      simpa [Function.comp_def] using hroles
    have hsubs : ∀ sub ∈ roles.map fun role => (role.1, roleEntries role.2), AreEntries sub.2 :=
      List.forall_mem_map.2 fun role _ => (areSettings_role role.2).areEntries
    have hbuilds := p.builds_subtables hsubs hnodup hnew
    simpa [roleGroups, roleFields, implied, hempty, hpath, List.flatMap_map, Function.comp_def]
      using hbuilds

theorem builds_securityGroups {s : Security.Settings} (hroles : (roles.map (·.1)).Nodup)
    (hoverrides : (overrides.map (·.1)).Nodup) (hnew : before.get? "security" = none) :
    Builds (securityGroups s roles overrides) before
      (before ++ [("security", .table .header (securityFields s roles overrides))]) := by
  let p := Place.root.last before "security" .header hnew
  have hkeys : ∀ entries ∈ s.apiKeys.map apiKeyEntries, AreEntries entries :=
    List.forall_mem_map.2 fun k _ => (areSettings_apiKey k).areEntries
  have husers : ∀ entries ∈ s.users.map userEntries, AreEntries entries :=
    List.forall_mem_map.2 fun u _ => (areSettings_user u).areEntries
  have hgroup : Builds (group (.table ["security"]) (securityEntries s)) before
      (p.put (assigned (securityEntries s))) := builds_group (areSettings_security s) hnew
  refine (((hgroup.append (p.builds_items hkeys fun h => ?_)).append
    (p.builds_items husers fun h => ?_)).append (builds_roleGroups rfl hroles ?_)).append
    (p.builds_table (areSettings_overrides hoverrides).areEntries ?_)
  · have hkeys : s.apiKeys ≠ [] := mt List.map_eq_nil_iff.2 h
    simp [securityEntries, Fields.get?_append, Fields.get?_cons, get?_assigned_emptyEntry, hkeys]
  · have husers : s.users ≠ [] := mt List.map_eq_nil_iff.2 h
    simp [securityEntries, Fields.get?_append, Fields.get?_cons, get?_assigned_emptyEntry, husers,
      get?_listed]
  · simp [securityEntries, Fields.get?_append, Fields.get?_cons, get?_assigned_emptyEntry,
      get?_listed]
  · simp [securityEntries, Fields.get?_append, Fields.get?_cons, get?_assigned_emptyEntry,
      get?_listed, roleFields]

/-! ### All settings -/

theorem builds_groupsWith (hwritable : s.isWritable) (hroles : (roles.map (·.1)).Nodup)
    (hoverrides : (overrides.map (·.1)).Nodup) :
    Builds (s.groupsWith roles overrides) (assigned (emptyEntry "indices" s.indices))
      (s.fieldsWith roles overrides) := by
  obtain ⟨hsize, hrequest, hengine⟩ := isWritable_iff.1 hwritable
  have hindices : ∀ entries ∈ s.indices.map indexEntries, AreEntries entries :=
    List.forall_mem_map.2 fun e _ => (areSettings_index e).areEntries
  have hfresh {name : String} (hname : "indices" ≠ name) :
      Fields.get? (assigned (emptyEntry "indices" s.indices)) name = none :=
    get?_assigned_emptyEntry (.inr hname)
  rw [fieldsWith]
  refine (((((builds_server hsize hrequest ?_).append
    (builds_securityGroups hroles hoverrides ?_)).append
    (builds_group (areSettings_cluster s.cluster) ?_)).append
    (builds_group (areSettings_observability s.observability) ?_)).append
    (builds_group (areSettings_engine hengine) ?_)).append
    (Place.root.builds_items hindices fun h => ?_)
  · exact hfresh (by decide)
  · simp [Fields.get?_append, Fields.get?_cons, hfresh]
  · simp [Fields.get?_append, Fields.get?_cons, hfresh]
  · simp [Fields.get?_append, Fields.get?_cons, hfresh]
  · simp [Fields.get?_append, Fields.get?_cons, hfresh]
  · have hne : s.indices ≠ [] := mt List.map_eq_nil_iff.2 h
    simp [Fields.get?_append, Fields.get?_cons, get?_assigned_emptyEntry, hne]

/-- The statements of settings build their fields. -/
theorem build?_statementsWith (hwritable : s.isWritable) (hroles : (roles.map (·.1)).Nodup)
    (hoverrides : (overrides.map (·.1)).Nodup) :
    Toml.build? (s.statementsWith roles overrides) =
      some (.object (Toml.fieldsToJson (s.fieldsWith roles overrides))) := by
  have hempty : (assignments (emptyEntry "indices" s.indices)).foldlM Toml.Building.step {} =
      some ⟨assigned (emptyEntry "indices" s.indices), []⟩ :=
    Place.root.foldlM_assignments areSettings_empty.areEntries (by simp)
  obtain ⟨path, hpath⟩ := builds_groupsWith hwritable hroles hoverrides []
  simp [Toml.build?, statementsWith, List.foldlM_append, hempty, hpath]

end SearchGateway.Settings
