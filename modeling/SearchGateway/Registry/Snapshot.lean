import SearchGateway.Keyed
import SearchGateway.NameSet
import SearchGateway.Registry.Target
import SearchGateway.Text.Pattern

/-!
# Snapshots of the registry

A snapshot holds the names of the indices and, for each alias, the names of its members. A token
of a target expression selects indices of the snapshot; an expression selects those of its tokens,
each once, in the order in which they are met.
-/

namespace SearchGateway.Registry

/-- The indices and aliases at one moment. -/
structure Snapshot where
  indices : NameSet
  aliases : Keyed NameSet
deriving DecidableEq

namespace Snapshot

def empty : Snapshot := ⟨.empty, .empty⟩

instance : Inhabited Snapshot := ⟨empty⟩

def isIndex (s : Snapshot) (name : String) : Bool :=
  name ∈ s.indices

def isAlias (s : Snapshot) (name : String) : Bool :=
  s.aliases.contains name

/-- The members that are indices, in order. -/
def existing (s : Snapshot) (members : NameSet) : List String :=
  members.toList.filter (· ∈ s.indices)

/-- The indices that one token selects; an unknown name selects none. -/
def resolveToken (s : Snapshot) (token : String) : List String :=
  if selectsAll token then s.indices.toList
  -- Indices in their own right come before the members of aliases.
  else if (Text.stem? token).isSome then
    s.indices.toList.filter (Text.covers token) ++
      (s.aliases.filter fun name _ => Text.covers token name).entries.flatMap
        fun entry => s.existing entry.2
  else if token ∈ s.indices then [token]
  else
    match s.aliases.get? token with
    | some members => s.existing members
    | none => []

/-- The indices that an expression selects. -/
def resolve (s : Snapshot) (expression : String) : List String :=
  ((tokens expression).flatMap s.resolveToken).eraseDups

end Snapshot

end SearchGateway.Registry
