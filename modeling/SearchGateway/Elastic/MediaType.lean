import SearchGateway.Elastic.Failure
import SearchGateway.Text.Case
import SearchGateway.Text.Blank
import SearchGateway.Text.Split

/-!
# Versioned media types

Clients send a vendor type with the version they speak, such as
`application/vnd.elasticsearch+json; compatible-with=8`. It stands for a plain type; a type of
any other vendor is left alone.
-/

namespace SearchGateway.Elastic

/-- What every vendor type begins with. -/
def vendorStart : String := "application/vnd.elasticsearch+"

/-- What a parameter with a version begins with. -/
def versionStart : String := "compatible-with="

def servedVersions : List String := ["7", "8"]

/-- A plain type that a vendor type stands for. -/
inductive PlainType where
  | json
  | ndjson
deriving DecidableEq, Repr

def PlainType.name : PlainType → String
  | .json => "application/json"
  | .ndjson => "application/x-ndjson"

/-- The plain type for the part of a vendor type after the plus sign. -/
def PlainType.ofSubtype? : String → Option PlainType
  | "json" => some .json
  | "x-ndjson" => some .ndjson
  | _ => none

/-- Why a vendor type is refused. -/
inductive MediaTypeError where
  | unknownSubtype (value : String)
  | unservedVersion (version value : String)
deriving DecidableEq, Repr

def MediaTypeError.failure : MediaTypeError → Failure
  | .unknownSubtype value =>
    .mediaType s!"Invalid media-type value on headers [Content-Type, Accept]: {value}"
  | .unservedVersion version value =>
    .mediaType (s!"Content-Type version must be either version 7 or 8, but found {version}. " ++
      s!"Content-Type={value}")

/-- What follows `start` in a text that begins with it. -/
def after? (start text : String) : Option String :=
  (Text.after? start.toList text.toList).map String.ofList

/-- The parts of a value between semicolons, in lower case and without blanks around them. -/
def mediaParts (value : String) : List String :=
  (Text.splitAt ';' (Text.lowered value)).map Text.trimmed

/-- The first version among the parameters that is not served. -/
def unservedVersion? (parameters : List String) : Option String :=
  (parameters.filterMap (after? versionStart)).find? (· ∉ servedVersions)

/-- The plain type that a value stands for, or nothing if the value is no vendor type. -/
def plainType (value : String) : Except MediaTypeError (Option PlainType) :=
  let parts := mediaParts value
  match after? vendorStart (parts.headD "") with
  | none => .ok none
  | some subtype =>
    match PlainType.ofSubtype? subtype with
    | none => .error (.unknownSubtype value)
    | some plain =>
      match unservedVersion? parts.tail with
      | some version => .error (.unservedVersion version value)
      | none => .ok (some plain)

end SearchGateway.Elastic
