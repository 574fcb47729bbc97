/-!
# TOML documents as they are written

A document is a list of statements: assignments and the headers of tables. What the statements
build is a matter of its own (`Toml.Tree`).
-/

namespace SearchGateway.Toml

/-- A value. Fractions and moments are kept as they are spelled. -/
inductive Value where
  | text (s : String)
  | integer (n : Int)
  | fraction (spelling : String)
  | truth (b : Bool)
  | moment (spelling : String)
  | array (items : List Value)
  | table (entries : List (List String × Value))
deriving Inhabited

/-- A line of a document. -/
inductive Statement where
  | assign (key : List String) (value : Value)
  | table (path : List String)
  | tableItem (path : List String)
deriving Inhabited

/-- Whether a character separates words on a line. -/
def isGap (c : Char) : Bool :=
  c == ' ' || c == '\t'

/-- Whether a character may stand in a comment or, unless it ends it, in a text on one line. -/
def isPrintable (c : Char) : Bool :=
  c == '\t' || (0x20 ≤ c.toNat && c.toNat != 0x7F)

/-- Whether a character may stand in a key without quotes. -/
def isBare (c : Char) : Bool :=
  c.isAlphanum || c == '_' || c == '-'

end SearchGateway.Toml
