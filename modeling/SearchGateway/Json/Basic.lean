import SearchGateway.Keyed
import SearchGateway.Json.Binary64

/-!
# JSON documents

Values of RFC 8259. Integers of 64 bits are kept exactly; every other number is a binary64 value.
The fields of an object are a list; documents that are read have them sorted by key, each key once.
-/

namespace SearchGateway

/-- A JSON value. -/
inductive Json where
  | null
  | bool (b : Bool)
  | int (n : Int)
  | float (x : Binary64)
  | string (s : String)
  | array (items : List Json)
  | object (fields : List (String × Json))
deriving Inhabited

namespace Json

def ofKeyed (m : Keyed Json) : Json :=
  .object m.entries

def ofTexts (l : List String) : Json :=
  .array (l.map .string)

/-- The field of an object with this key; of equal keys the last one counts. -/
def field? (j : Json) (key : String) : Option Json :=
  match j with
  | .object fields => (fields.reverse.find? (·.1 == key)).map (·.2)
  | _ => none

def isNull : Json → Bool
  | .null => true
  | _ => false

end Json

end SearchGateway
