import Mathlib.Algebra.Group.Nat.Defs
import SearchGateway.Proofs.Keyed
import SearchGateway.Proofs.Lists
import SearchGateway.Proofs.Settings.Document
import SearchGateway.Proofs.Text.Utf8

/-!
# Settings that are saved and loaded

The document of settings holds the settings (`ofDocument?_fieldsWith`), and so does the file that
they are saved in (`load_save`).
-/

namespace SearchGateway.Settings

open Toml (Fields Node Value assigned fieldsToJson listed lookUp tablesToJson)

variable {α : Type} {l : List α} {name other : String} {spare : Spare} {names : List String}
  {fields : Fields} {item? : Json → Option α} {s : Settings}
  {roles : List (String × List String)} {overrides : List (String × String)}

/-! ## Values -/

@[simp] theorem group?_fields :
    group? spare names (.object (fieldsToJson fields)) = some (lookUp fields) := rfl

theorem Group.get_eq {g : Group} {read? : Json → Option α} {default : α} :
    g.get name read? default = ((g name).map read?).getD (some default) := by
  unfold Group.get
  cases g name <;> rfl

@[simp] theorem text?_document (s : String) : text? (Value.text s).document = some s := rfl

@[simp] theorem truth?_document (b : Bool) : truth? (Value.truth b).document = some b := rfl

theorem count?_document {n : Nat} (h : n < Nat.pow 2 63) :
    count? (Value.integer n).document = some n := by
  have hdocument : (Value.integer n).document = .int n := rfl
  have hlt : (n : Int) < Int.pow 2 64 := by
    have hpow : Int.pow 2 64 = 2 ^ 64 := rfl
    have hpow' : Nat.pow 2 63 = 2 ^ 63 := rfl
    omega
  rw [hdocument, count?, if_pos ⟨Int.natCast_nonneg n, hlt⟩, Int.toNat_natCast]

@[simp] theorem texts?_document (l : List String) :
    list? text? (textValues l).document = some l := by
  rw [Value.document, toJson?_textValues, Option.getD_some, Json.ofTexts, list?, mapM_eq_some_iff,
    List.forall₂_map_left_iff, List.forall₂_same]
  exact fun _ _ => rfl

theorem list?_tables {f : α → Fields}
    (h : ∀ a ∈ l, item? (.object (fieldsToJson (f a))) = some a) :
    list? item? (.array (tablesToJson (l.map f))) = some l := by
  rw [list?, Toml.tablesToJson_map, mapM_eq_some_iff, List.forall₂_map_left_iff, List.forall₂_same]
  exact h

theorem map?_fields {m : Keyed α} {entries : List (String × α)} {f : α → Node}
    (h : ∀ a, item? (f a).toJson = some a) (hperm : entries.Perm m.entries) :
    map? item? (.object (fieldsToJson (entries.map fun entry => (entry.1, f entry.2)))) =
      some m := by
  have hentries : (fieldsToJson (entries.map fun entry => (entry.1, f entry.2))).mapM
      (fun (field : String × Json) => (item? field.2).map ((field.1, ·))) = some entries := by
    rw [Toml.fieldsToJson_map, mapM_eq_some_iff, List.forall₂_map_left_iff, List.forall₂_same]
    intro entry _
    rw [h, Option.map_some]
  rw [map?, hentries, Option.map_some, Keyed.ofList_of_perm hperm]

/-! ## Lists of groups -/

theorem lookUp_listed {tables : List Fields} (h : name ≠ other) :
    lookUp (listed name tables) other = none := by
  cases tables <;> simp [listed, h]

theorem lookUp_emptyEntry (h : name ≠ other) :
    lookUp (assigned (emptyEntry name l)) other = none := by
  cases l <;> simp [emptyEntry, h]

theorem or_lookUp_listed (name : String) {f : α → List (String × Value)} :
    (lookUp (listed name ((l.map f).map assigned)) name).or
        (lookUp (assigned (emptyEntry name l)) name) =
      some (.array (tablesToJson (l.map fun a => assigned (f a)))) := by
  cases l with
  | nil => simp [listed, emptyEntry, Value.document, Value.toJson?, Toml.itemsToJson?, tablesToJson,
      Node.toJson]
  | cons a l => simp [listed, emptyEntry, Node.toJson, Function.comp_def]

/-! ## Groups -/

theorem server?_fields {s : ServerSettings} (hsize : s.maxBodySize < Nat.pow 2 63)
    (hrequest : s.requestTimeout < Nat.pow 2 63) :
    server? spare (.object (fieldsToJson (serverFields s))) = some s := by
  -- With steps that hold by definition the kernel would evaluate `count?` on the bound.
  simp -implicitDefEqProofs [server?, serverFields, serverEntries, originEntries, Group.get_eq,
    Node.toJson, origins?, count?_document hsize, count?_document hrequest]

theorem apiKey?_fields (k : Security.ApiKey) :
    apiKey? spare (.object (fieldsToJson (assigned (apiKeyEntries k)))) = some k := by
  simp [apiKey?, apiKeyEntries, Group.get_eq, Group.require, Node.toJson]

theorem user?_fields (u : Security.User) :
    user? spare (.object (fieldsToJson (assigned (userEntries u)))) = some u := by
  simp [user?, userEntries, Group.get_eq, Group.require, Node.toJson]

theorem permissions?_fields (permissions : List String) :
    permissions? spare (.object (fieldsToJson (assigned (roleEntries permissions)))) =
      some permissions := by
  simp [permissions?, roleEntries, Group.get_eq, Node.toJson]

theorem security?_fields {s : Security.Settings} (hroles : roles.Perm s.roles.entries)
    (hoverrides : overrides.Perm s.overrides.entries) :
    security? spare (.object (fieldsToJson (securityFields s roles overrides))) = some s := by
  have hkeys : lookUp (securityFields s roles overrides) "api_keys" =
      some (.array (tablesToJson (s.apiKeys.map fun k => assigned (apiKeyEntries k)))) := by
    rw [← or_lookUp_listed "api_keys"]
    simp [securityFields, securityEntries, roleFields, lookUp_listed, lookUp_emptyEntry]
  have husers : lookUp (securityFields s roles overrides) "users" =
      some (.array (tablesToJson (s.users.map fun u => assigned (userEntries u)))) := by
    rw [← or_lookUp_listed "users"]
    simp [securityFields, securityEntries, roleFields, lookUp_listed, lookUp_emptyEntry]
  have henabled : lookUp (securityFields s roles overrides) "enabled" =
      some (Value.truth s.enabled).document := by
    simp [securityFields, securityEntries, roleFields, lookUp_listed, lookUp_emptyEntry,
      Node.toJson]
  have hroleFields : lookUp (securityFields s roles overrides) "roles" =
      some (.object (fieldsToJson (roles.map fun role =>
        (role.1, .table .header (assigned (roleEntries role.2)))))) := by
    simp [securityFields, roleFields, Node.toJson]
  have hoverrideFields : lookUp (securityFields s roles overrides) "operations" =
      some (.object (fieldsToJson (overrides.map fun override =>
        (override.1, .value (Value.text override.2).document)))) := by
    simp [securityFields, Node.toJson, assigned, overrideEntries, Function.comp_def]
  have hpermissions (permissions : List String) : permissions? spare
      (Node.table .header (assigned (roleEntries permissions))).toJson = some permissions :=
    permissions?_fields permissions
  have htext (text : String) : text? (Node.value (Value.text text).document).toJson = some text :=
    rfl
  simp [security?, Group.get_eq, henabled, hkeys, husers, hroleFields, hoverrideFields,
    list?_tables fun k _ => apiKey?_fields k, list?_tables fun u _ => user?_fields u,
    map?_fields hpermissions hroles, map?_fields htext hoverrides]

theorem cluster?_fields (s : ClusterSettings) :
    cluster? spare (.object (fieldsToJson (assigned (clusterEntries s)))) = some s := by
  simp [cluster?, clusterEntries, Group.get_eq, Node.toJson]

theorem observability?_fields (s : ObservabilitySettings) :
    observability? spare (.object (fieldsToJson (assigned (observabilityEntries s)))) = some s := by
  simp [observability?, observabilityEntries, Group.get_eq, Node.toJson]

theorem engine?_fields {s : EngineSettings} (htimeout : s.timeout < Nat.pow 2 63) :
    engine? spare (.object (fieldsToJson (assigned (engineEntries s)))) = some s := by
  simp -implicitDefEqProofs [engine?, engineEntries, Group.get_eq, Node.toJson,
    count?_document htimeout]

theorem index?_fields (e : Registry.IndexEntry) :
    index? spare (.object (fieldsToJson (assigned (indexEntries e)))) = some e := by
  simp [index?, indexEntries, Group.get_eq, Group.require, Node.toJson]

/-- The document of settings holds them. -/
theorem ofDocument?_fieldsWith (hwritable : s.isWritable)
    (hroles : roles.Perm s.security.roles.entries)
    (hoverrides : overrides.Perm s.security.overrides.entries) :
    ofDocument? spare (.object (fieldsToJson (s.fieldsWith roles overrides))) = some s := by
  obtain ⟨hsize, hrequest, hengine⟩ := isWritable_iff.1 hwritable
  have hindices : lookUp (s.fieldsWith roles overrides) "indices" =
      some (.array (tablesToJson (s.indices.map fun e => assigned (indexEntries e)))) := by
    rw [← or_lookUp_listed "indices"]
    simp [fieldsWith]
  have hserver : lookUp (s.fieldsWith roles overrides) "server" =
      some (.object (fieldsToJson (serverFields s.server))) := by
    simp [fieldsWith, lookUp_listed, Node.toJson]
  have hsecurity : lookUp (s.fieldsWith roles overrides) "security" =
      some (.object (fieldsToJson (securityFields s.security roles overrides))) := by
    simp [fieldsWith, lookUp_listed, Node.toJson]
  have hcluster : lookUp (s.fieldsWith roles overrides) "compat" =
      some (.object (fieldsToJson (assigned (clusterEntries s.cluster)))) := by
    simp [fieldsWith, lookUp_listed, Node.toJson]
  have hobservability : lookUp (s.fieldsWith roles overrides) "observability" =
      some (.object (fieldsToJson (assigned (observabilityEntries s.observability)))) := by
    simp [fieldsWith, lookUp_listed, Node.toJson]
  have hupstream : lookUp (s.fieldsWith roles overrides) "upstream" =
      some (.object (fieldsToJson (assigned (engineEntries s.engine)))) := by
    simp [fieldsWith, lookUp_listed, Node.toJson]
  simp [ofDocument?, Group.get_eq, hserver, hsecurity, hcluster, hobservability, hupstream,
    hindices, server?_fields hsize hrequest, security?_fields hroles hoverrides, cluster?_fields,
    observability?_fields, engine?_fields hengine, list?_tables fun e _ => index?_fields e]

/-! ## Files -/

/-- A text with the statements of settings holds them. -/
theorem parse?_statementsWith (hwritable : s.isWritable)
    (hroles : roles.Perm s.security.roles.entries)
    (hoverrides : overrides.Perm s.security.overrides.entries) :
    parse? (Toml.write (s.statementsWith roles overrides)) = some s := by
  have hroleKeys : (roles.map (·.1)).Nodup :=
    (hroles.map _).nodup_iff.2 s.security.roles.nodup_keys
  have hoverrideKeys : (overrides.map (·.1)).Nodup :=
    (hoverrides.map _).nodup_iff.2 s.security.overrides.nodup_keys
  have hread : Toml.read? (Toml.write (s.statementsWith roles overrides)) = _ :=
    Toml.read?_write (isReadBack_statementsWith hwritable hoverrideKeys)
  have hbuild := build?_statementsWith hwritable hroleKeys hoverrideKeys
  simp [parse?, hread, hbuild, ofDocument?_fieldsWith hwritable hroles hoverrides]

theorem load_encode {text : String} (hparse : parse? text = some s) :
    load (Text.Utf8.encode text) = (s.validate.mapError .invalid).map fun _ => s := by
  have hdecode : Text.Utf8.decode? (Text.Utf8.encode text) = some text :=
    Text.Utf8.decode?_eq_some_iff.2 rfl
  rw [load, hdecode]
  simp only [hparse]
  cases s.validate <;> rfl

/-- Settings whose numbers have a place in the format are saved, whatever their texts are. If they
are valid, just they are loaded again, from whatever order the entries of the maps have in the file;
if they are not, the file is rejected for their flaw. -/
theorem load_save (hsize : s.server.maxBodySize < 2 ^ 63)
    (hrequest : s.server.requestTimeout < 2 ^ 63) (hengine : s.engine.timeout < 2 ^ 63) :
    ∃ text, s.save = .ok text ∧
      (s.validate = .ok () → load (Text.Utf8.encode text) = .ok s) ∧
      (∀ flaw, s.validate = .error flaw →
        load (Text.Utf8.encode text) = .error (.invalid flaw)) ∧
      ∀ roles overrides, roles.Perm s.security.roles.entries →
        overrides.Perm s.security.overrides.entries →
        load (Text.Utf8.encode (Toml.write (s.statementsWith roles overrides))) =
          load (Text.Utf8.encode text) := by
  have hwritable : s.isWritable := isWritable_iff.2 ⟨hsize, hrequest, hengine⟩
  have hload := load_encode (parse?_statementsWith hwritable (.refl _) (.refl _))
  refine ⟨Toml.write s.statements, by rw [save, if_pos hwritable], ?_⟩
  rw [statements_eq, hload]
  refine ⟨fun hvalid => by rw [hvalid]; rfl, fun flaw hflaw => by rw [hflaw]; rfl, ?_⟩
  intro roles overrides hroles hoverrides
  exact load_encode (parse?_statementsWith hwritable hroles hoverrides)

/-- Settings with quotes, line breaks and other controls in their texts and keys, and with an empty
list where the default is not empty. -/
def trickySettings : Settings where
  server := { bindAddress := "\"\n'''\"\"\"", origins := { enabled := false, origins := [] } }
  security := {
    apiKeys := [{ key := "\\u0000", name := "\x00\x7f", roles := ["", "]"] }]
    roles := .ofList [("", []), ("a.b\n", ["*\t", "\r\nread"])]
    overrides := .ofList [("[x]", "= é"), ("# \"key\"", "'''''")] }
  indices := [{ name := "", aliases := [",", "\\"] }]

/-- These are loaded as they are, and with another format of the log they are rejected. -/
theorem load_save_tricky :
    (∃ text, trickySettings.save = .ok text ∧
      load (Text.Utf8.encode text) = .ok trickySettings) ∧
    ∃ text, { trickySettings with observability := { logFormat := "\"plain" } }.save = .ok text ∧
      load (Text.Utf8.encode text) = .error (.invalid (.logFormat "\"plain")) := by
  constructor
  · obtain ⟨text, hsave, hload, -⟩ :=
      load_save (s := trickySettings) (by decide) (by decide) (by decide)
    exact ⟨text, hsave, hload (by decide)⟩
  · obtain ⟨text, hsave, -, hload, -⟩ :=
      load_save (s := { trickySettings with observability := { logFormat := "\"plain" } })
        (by decide) (by decide) (by decide)
    exact ⟨text, hsave, hload _ (by decide)⟩

end SearchGateway.Settings
