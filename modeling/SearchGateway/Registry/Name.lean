/-!
# Names of indices and aliases
-/

namespace SearchGateway.Registry

/-- Why a text is not a name. -/
inductive NameFlaw where
  | empty
  | badStart
  | badCharacter
  | upperCase
deriving DecidableEq, Repr

def NameFlaw.message : NameFlaw → String
  | .empty => "must not be empty"
  | .badStart => "must not start with '_', '-', or '+'"
  | .badCharacter => "must not contain wildcards, commas, or path separators"
  | .upperCase => "must be lowercase"

def reservedStarts : List Char := ['_', '-', '+']

def reservedChars : List Char := ['*', ',', '/', '\\', '?', '"', '<', '>', '|', ' ', '#']

/-- The first flaw of a text as a name. -/
def nameFlaw? (name : String) : Option NameFlaw :=
  match name.toList with
  | [] => some .empty
  | c :: rest =>
    if c ∈ reservedStarts then some .badStart
    else if (c :: rest).any (· ∈ reservedChars) then some .badCharacter
    else if (c :: rest).any Char.isUpper then some .upperCase
    else none

end SearchGateway.Registry
