import SearchGateway.Registry.Name
import SearchGateway.Registry.Snapshot

/-!
# Writes to the registry

A write yields the next snapshot or the reason for which it is refused; a refused write changes
nothing. No write lets a name be an index and an alias at once or leaves an alias without members.
-/

namespace SearchGateway.Registry

/-- Why a write is refused. -/
inductive WriteError where
  | badName (name : String) (flaw : NameFlaw)
  | isAlias (name : String)
  | isIndex (name : String)
  | noIndex (name : String)
  | noAlias (name : String)
  | notMember (name index : String)
deriving DecidableEq, Repr

def WriteError.message : WriteError → String
  | .badName name flaw => s!"Invalid index name: [{name}] {flaw.message}"
  | .isAlias name => s!"Invalid index name: {name} already exists as an alias"
  | .isIndex name => s!"Invalid index name: {name} already exists as an index"
  | .noIndex name => s!"Index not found: {name}"
  | .noAlias name => s!"Alias not found: {name}"
  | .notMember name index => s!"Alias not found: {name} -> {index}"

/-- A change of the registry. -/
inductive Write where
  | createIndex (index : String)
  | deleteIndex (index : String)
  | putAlias (name index : String)
  | removeAlias (name index : String)
deriving DecidableEq, Repr

def checkName (name : String) : Except WriteError Unit :=
  match nameFlaw? name with
  | some flaw => .error (.badName name flaw)
  | none => .ok ()

namespace Snapshot

def createIndex (s : Snapshot) (index : String) : Except WriteError Snapshot := do
  checkName index
  if s.isAlias index then throw (.isAlias index)
  -- An index that is there already is no error.
  return { s with indices := s.indices.insert index }

/-- Removes an index and its memberships; aliases left without members go with it. -/
def deleteIndex (s : Snapshot) (index : String) : Except WriteError Snapshot := do
  if !s.isIndex index then throw (.noIndex index)
  return {
    indices := s.indices.erase index
    aliases := (s.aliases.map (·.erase index)).filter fun _ members => !members.isEmpty }

/-- Makes an index a member of an alias. -/
def putAlias (s : Snapshot) (name index : String) : Except WriteError Snapshot := do
  checkName name
  if !s.isIndex index then throw (.noIndex index)
  if s.isIndex name then throw (.isIndex name)
  let members := (s.aliases.get? name).getD .empty
  return { s with aliases := s.aliases.insert name (members.insert index) }

/-- Ends a membership; an alias left without members goes with it. -/
def removeAlias (s : Snapshot) (name index : String) : Except WriteError Snapshot :=
  match s.aliases.get? name with
  | none => .error (.noAlias name)
  | some members =>
    if index ∉ members then .error (.notMember name index)
    else
      let members := members.erase index
      .ok { s with
        aliases := if members.isEmpty then s.aliases.erase name else s.aliases.insert name members }

def apply (s : Snapshot) : Write → Except WriteError Snapshot
  | .createIndex index => s.createIndex index
  | .deleteIndex index => s.deleteIndex index
  | .putAlias name index => s.putAlias name index
  | .removeAlias name index => s.removeAlias name index

/-- The snapshot after a write, which is the old one if the write is refused. -/
def after (s : Snapshot) (w : Write) : Snapshot :=
  match s.apply w with
  | .ok next => next
  | .error _ => s

end Snapshot

/-- An index declared in the settings, with the aliases it is a member of. -/
structure IndexEntry where
  name : String
  aliases : List String
deriving DecidableEq, Repr

/-- The writes that set up declared indices: every index first, then their aliases. -/
def seedWrites (declared : List IndexEntry) : List Write :=
  declared.map (.createIndex ·.name) ++
    declared.flatMap fun entry => entry.aliases.map (.putAlias · entry.name)

/-- The registry of the declared indices. -/
def seed (declared : List IndexEntry) : Except WriteError Snapshot :=
  (seedWrites declared).foldlM Snapshot.apply .empty

end SearchGateway.Registry
