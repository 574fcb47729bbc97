import SearchGateway.Text.Case
import SearchGateway.Text.Utf8

/-!
# Header fields

Names are compared without regard to case, so they are kept in lower case. A name may occur more
than once; the first occurrence is the one that is read.
-/

namespace SearchGateway.Http

/-- Header fields in the order in which they were sent. -/
abbrev Headers := List (String × Bytes)

namespace Headers

/-- Fields with their names in lower case. -/
def ofFields (fields : List (String × Bytes)) : Headers :=
  fields.map fun field => (Text.lowered field.1, field.2)

/-- The first value for a name. -/
def first? (headers : Headers) (name : String) : Option Bytes :=
  (headers.find? (·.1 == name)).map (·.2)

/-- Gives a name one value, in place of those it had. -/
def set (headers : Headers) (name : String) (value : Bytes) : Headers :=
  headers.filter (·.1 != name) ++ [(name, value)]

end Headers

/-- Whether a byte may stand in a value: no control of ASCII but the tab may. -/
def isFieldByte (b : UInt8) : Bool :=
  (0x20 ≤ b && b != 0x7F) || b == 0x09

/-- Whether a byte of a value is a visible character of ASCII, a space or a tab. -/
def isVisible (b : UInt8) : Bool :=
  (0x20 ≤ b && b ≤ 0x7E) || b == 0x09

/-- The text of a value whose bytes are all visible. -/
def visibleText? (value : Bytes) : Option String :=
  if value.all isVisible then some (String.ofList (value.map fun b => Char.ofNat b.toNat))
  else none

end SearchGateway.Http
