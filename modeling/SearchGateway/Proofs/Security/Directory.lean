import SearchGateway.Proofs.Keyed
import SearchGateway.Proofs.Text.Numeral
import SearchGateway.Security.Directory

/-!
# Whose credential it is

The directory knows the credentials that the settings configure, and no others: of entries for one
key or one user name the last one decides, with its secret and its roles together, and entries for
another key or name have no say (`Directory.verify_configured`).
-/

namespace SearchGateway.Security

/-- The last entry of a name in a list. -/
def LastNamed {α : Type u} (name : α → String) (entries : List α) (wanted : String)
    (entry : α) : Prop :=
  ∃ front rest, entries = front ++ entry :: rest ∧ name entry = wanted ∧
    ∀ other ∈ rest, name other ≠ wanted

/-- The settings configure a credential for an identity. A digest may be kept in capitals. -/
inductive Configures (settings : Settings) : Credential → Identity → Prop where
  | apiKey {key entry} : LastNamed ApiKey.key settings.apiKeys key entry →
      Configures settings (.apiKey key) ⟨entry.name, entry.roles, keyHint key⟩
  | basic {user password entry} : LastNamed User.name settings.users user entry →
      Text.lowered entry.passwordDigest = Text.lowered (passwordDigest password) →
      Configures settings (.basic user password) ⟨user, entry.roles, ""⟩

/-- The settings have the same entries for the key or the user name of a credential. -/
def AgreeOn (settings others : Settings) : Credential → Prop
  | .apiKey key =>
    settings.apiKeys.filter (·.key = key) = others.apiKeys.filter (·.key = key)
  | .basic user _ =>
    settings.users.filter (·.name = user) = others.users.filter (·.name = user)

/-! ## The last entry of a name -/

section

variable {α : Type u} {name : α → String} {entries : List α} {wanted : String} {entry : α}

/-- A map of named entries holds for a name the last of its entries. -/
theorem get?_ofList_map_eq_some_iff :
    (Keyed.ofList (entries.map fun entry => (name entry, entry))).get? wanted = some entry ↔
      LastNamed name entries wanted entry := by
  rw [Keyed.get?_ofList_eq_some_iff]
  constructor
  · rintro ⟨front, rest, heq, hrest⟩
    obtain ⟨before, after, rfl, -, hafter⟩ := List.map_eq_append_iff.1 heq
    obtain ⟨last, others, rfl, hlast, rfl⟩ := List.map_eq_cons_iff.1 hafter
    obtain ⟨rfl, rfl⟩ := Prod.mk.inj hlast
    exact ⟨before, others, rfl, rfl, fun other hother => hrest _ (List.mem_map_of_mem hother)⟩
  · rintro ⟨front, rest, rfl, rfl, hrest⟩
    exact ⟨_, _, List.map_append, List.forall_mem_map.2 hrest⟩

theorem get?_ofList_map_eq_getLast? :
    (Keyed.ofList (entries.map fun entry => (name entry, entry))).get? wanted =
      (entries.filter (name · = wanted)).getLast? := by
  -- of the entries in reverse order the first one with the name is found
  have hfound : (fun pair : String × α => pair.1 == wanted) ∘ (fun entry => (name entry, entry)) =
      (name · = wanted) := by
    funext entry
    exact beq_eq_decide _ _
  rw [Keyed.get?_ofList_eq_find?, ← List.map_reverse, List.find?_map, hfound, Option.map_map,
    List.getLast?_eq_head?_reverse, ← List.filter_reverse, List.head?_filter]
  exact Option.map_id'

theorem LastNamed.unique {other : α} (h : LastNamed name entries wanted entry)
    (hother : LastNamed name entries wanted other) : entry = other := by
  rw [← get?_ofList_map_eq_some_iff] at h hother
  exact Option.some.inj (h.symm.trans hother)

theorem exists_lastNamed_iff :
    (∃ entry, LastNamed name entries wanted entry) ↔ ∃ entry ∈ entries, name entry = wanted := by
  constructor
  · rintro ⟨entry, front, rest, rfl, hname, -⟩
    exact ⟨entry, List.mem_append_right _ List.mem_cons_self, hname⟩
  · rintro ⟨entry, hentry, hname⟩
    have hmem : entry ∈ entries.filter (name · = wanted) :=
      List.mem_filter.2 ⟨hentry, decide_eq_true hname⟩
    have hlast := List.getLast?_eq_some_getLast (List.ne_nil_of_mem hmem)
    exact ⟨_, get?_ofList_map_eq_some_iff.1 (get?_ofList_map_eq_getLast?.trans hlast)⟩

end

/-! ## Digests -/

theorem toLower_hexDigit : ∀ n < 16, (Text.hexDigit n).toLower = Text.hexDigit n := by
  decide

theorem lowered_hex (bytes : Bytes) : Text.lowered (Text.hex bytes) = Text.hex bytes := by
  rw [Text.lowered, Text.hex, String.toList_ofList, List.map_flatMap]
  congr 2
  funext b
  have hb := b.toNat_lt
  simp [toLower_hexDigit (b.toNat / 16) (by omega), toLower_hexDigit (b.toNat % 16) (by omega)]

theorem lowered_passwordDigest (password : String) :
    Text.lowered (passwordDigest password) = passwordDigest password :=
  lowered_hex _

namespace Directory

variable {settings others : Settings} {credential : Credential} {identity : Identity}
  {key user password : String}

/-! ## Verifying -/

/-- A credential is verified as what the settings configure it for. -/
theorem verify_eq_some_iff :
    (ofSettings settings).verify credential = some identity ↔
      Configures settings credential identity := by
  cases credential with
  | apiKey key =>
      simp only [verify, ofSettings, Option.map_eq_some_iff, get?_ofList_map_eq_some_iff]
      constructor
      · rintro ⟨entry, hlast, rfl⟩
        exact .apiKey hlast
      · intro h
        cases h with
        | apiKey hlast => exact ⟨_, hlast, rfl⟩
  | basic user password =>
      simp only [verify, ofSettings, Option.bind_eq_bind, Option.bind_eq_some_iff,
        get?_ofList_map_eq_some_iff, Option.ite_none_right_eq_some, Option.some.injEq]
      constructor
      · rintro ⟨entry, hlast, hdigest, rfl⟩
        exact .basic hlast (hdigest.trans (lowered_passwordDigest password).symm)
      · intro h
        cases h with
        | basic hlast hdigest =>
            exact ⟨_, hlast, hdigest.trans (lowered_passwordDigest password), rfl⟩

theorem verify_congr (h : AgreeOn settings others credential) :
    (ofSettings settings).verify credential = (ofSettings others).verify credential := by
  cases credential with
  | apiKey key =>
      simp only [AgreeOn] at h
      simp only [verify, ofSettings, get?_ofList_map_eq_getLast?, h]
  | basic user password =>
      simp only [AgreeOn] at h
      simp only [verify, ofSettings, get?_ofList_map_eq_getLast?, h]

theorem isSome_verify_apiKey_iff :
    ((ofSettings settings).verify (.apiKey key)).isSome ↔
      ∃ entry ∈ settings.apiKeys, entry.key = key := by
  rw [← exists_lastNamed_iff, Option.isSome_iff_exists]
  simp only [verify_eq_some_iff]
  constructor
  · rintro ⟨identity, ⟨hlast⟩⟩
    exact ⟨_, hlast⟩
  · rintro ⟨entry, hlast⟩
    exact ⟨_, .apiKey hlast⟩

theorem isSome_verify_basic_iff :
    ((ofSettings settings).verify (.basic user password)).isSome ↔
      ∃ entry, LastNamed User.name settings.users user entry ∧
        Text.lowered entry.passwordDigest = Text.lowered (passwordDigest password) := by
  simp only [Option.isSome_iff_exists, verify_eq_some_iff]
  constructor
  · rintro ⟨identity, h⟩
    cases h with
    | basic hlast hdigest => exact ⟨_, hlast, hdigest⟩
  · rintro ⟨entry, hlast, hdigest⟩
    exact ⟨_, .basic hlast hdigest⟩

/-- A credential is verified exactly as the settings configure it, whatever entries they repeat. A
key needs an entry, and a user name needs one whose last has the digest of the password; entries
for other keys and names do not matter. The digest that is kept for a user is no password for that
user, unless it is its own digest. -/
theorem verify_configured (settings : Settings) :
    (∀ credential identity, (ofSettings settings).verify credential = some identity ↔
      Configures settings credential identity) ∧
    (∀ key, ((ofSettings settings).verify (.apiKey key)).isSome ↔
      ∃ entry ∈ settings.apiKeys, entry.key = key) ∧
    (∀ user password, ((ofSettings settings).verify (.basic user password)).isSome ↔
      ∃ entry, LastNamed User.name settings.users user entry ∧
        Text.lowered entry.passwordDigest = Text.lowered (passwordDigest password)) ∧
    (∀ others credential, AgreeOn settings others credential →
      (ofSettings settings).verify credential = (ofSettings others).verify credential) ∧
    ∀ user entry, LastNamed User.name settings.users user entry →
      (((ofSettings settings).verify (.basic user entry.passwordDigest)).isSome ↔
        Text.lowered entry.passwordDigest =
          Text.lowered (passwordDigest entry.passwordDigest)) := by
  refine ⟨fun _ _ => verify_eq_some_iff, fun _ => isSome_verify_apiKey_iff,
    fun _ _ => isSome_verify_basic_iff, fun _ _ => verify_congr, fun user entry hentry => ?_⟩
  rw [isSome_verify_basic_iff]
  constructor
  · rintro ⟨last, hlast, hdigest⟩
    rwa [hlast.unique hentry] at hdigest
  · intro hdigest
    exact ⟨entry, hentry, hdigest⟩

/-- Settings that repeat a key and a name, the last digest in capitals. -/
def repeating : Settings where
  apiKeys := [⟨"k-1", "old", ["admin"]⟩, ⟨"k-2", "other", ["admin"]⟩, ⟨"k-1", "new", ["reader"]⟩]
  users := [⟨"alice", passwordDigest "first", ["admin"]⟩,
    ⟨"bob", passwordDigest "third", ["admin"]⟩,
    ⟨"alice", "2BB80D537B1DA3E38BD30361AA855686BDE0EACD7162FEF6A25FE97BF527A25B", ["reader"]⟩]

/-- The settings without the entries for other keys and names. -/
def repeatingAlone : Settings where
  apiKeys := [⟨"k-1", "old", ["admin"]⟩, ⟨"k-1", "new", ["reader"]⟩]
  users := [⟨"alice", passwordDigest "first", ["admin"]⟩,
    ⟨"alice", "2BB80D537B1DA3E38BD30361AA855686BDE0EACD7162FEF6A25FE97BF527A25B", ["reader"]⟩]

/-- The last entries decide, whatever else there is, and the digest is no password. -/
theorem verify_repeating :
    (ofSettings repeating).verify (.apiKey "k-1") = some ⟨"new", ["reader"], "k-1"⟩ ∧
    (ofSettings repeating).verify (.basic "alice" "secret") = some ⟨"alice", ["reader"], ""⟩ ∧
    (ofSettings repeatingAlone).verify (.basic "alice" "secret") =
      some ⟨"alice", ["reader"], ""⟩ ∧
    ¬ ((ofSettings repeating).verify (.basic "alice"
      "2BB80D537B1DA3E38BD30361AA855686BDE0EACD7162FEF6A25FE97BF527A25B")).isSome := by
  obtain ⟨hverify, -, -, hagree, hstored⟩ := verify_configured repeating
  have hkey : LastNamed ApiKey.key repeating.apiKeys "k-1" ⟨"k-1", "new", ["reader"]⟩ :=
    ⟨repeating.apiKeys.take 2, [], rfl, rfl, List.forall_mem_nil _⟩
  have halice : LastNamed User.name repeating.users "alice" ⟨"alice",
      "2BB80D537B1DA3E38BD30361AA855686BDE0EACD7162FEF6A25FE97BF527A25B", ["reader"]⟩ :=
    ⟨repeating.users.take 2, [], rfl, rfl, List.forall_mem_nil _⟩
  have hsecret : (ofSettings repeating).verify (.basic "alice" "secret") =
      some ⟨"alice", ["reader"], ""⟩ :=
    (hverify _ _).2 (.basic halice (by decide +kernel))
  refine ⟨(hverify _ _).2 (.apiKey hkey), hsecret, ?_, ?_⟩
  · exact (hagree repeatingAlone (.basic "alice" "secret") rfl).symm.trans hsecret
  · exact mt (hstored "alice" _ halice).1 (by decide +kernel)

end Directory

end SearchGateway.Security
