import SearchGateway.Json.Basic
import SearchGateway.Toml.Word

/-!
# What a document means

The statements of a document build one table. A header opens a table, once; a key with dots
reaches into tables that only such keys have made. A value is closed: nothing can be added to it.
-/

namespace SearchGateway.Toml

/-- How a table came to be: by its header, on the way to another header, or by a key with dots. -/
inductive Origin where
  | header
  | implied
  | dotted
deriving DecidableEq, Repr

/-- What a name stands for. -/
inductive Node where
  | value (document : Json)
  | table (origin : Origin) (fields : List (String × Node))
  | items (tables : List (List (String × Node)))
deriving Inhabited

/-- The fields of a table. -/
abbrev Fields := List (String × Node)

namespace Fields

def get? (fields : Fields) (name : String) : Option Node :=
  (fields.find? (·.1 == name)).map (·.2)

/-- Lets a name stand for something, in its old place if it has one. -/
def set (fields : Fields) (name : String) (node : Node) : Fields :=
  if fields.any (·.1 == name) then
    fields.map fun field => if field.1 == name then (name, node) else field
  else fields ++ [(name, node)]

end Fields

/-- Changes the table at a path. Tables that are missing on the way are made with this origin;
keys with dots do not reach into a table that has a header. -/
def within (origin : Origin) (change : Origin → Fields → Option (Origin × Fields)) :
    List String → Origin → Fields → Option (Origin × Fields)
  | [], own, fields => change own fields
  | name :: path, own, fields =>
    match fields.get? name with
    | none => do
      let (made, inner) ← within origin change path origin []
      some (own, fields.set name (.table made inner))
    | some (.table made inner) =>
      if origin = .dotted ∧ made = .header then none
      else do
        let (made, inner) ← within origin change path made inner
        some (own, fields.set name (.table made inner))
    -- The way into a list leads to the table that was added last.
    | some (.items tables) =>
      match tables.getLast? with
      | none => none
      | some last => do
        let (_, inner) ← within origin change path .header last
        some (own, fields.set name (.items (tables.dropLast ++ [inner])))
    | some (.value _) => none

def define (direct : Bool) (name : String) (document : Json) (own : Origin) (fields : Fields) :
    Option (Origin × Fields) :=
  -- A key with dots adds to tables only that such keys have made.
  if !direct && own != .dotted then none
  else
    match fields.get? name with
    | some _ => none
    | none => some (own, fields.set name (.value document))

def assign (key : List String) (document : Json) (own : Origin) (fields : Fields) :
    Option (Origin × Fields) :=
  match key.getLast? with
  | none => none
  | some name => within .dotted (define (key.length == 1) name document) key.dropLast own fields

def openTable (name : String) (own : Origin) (fields : Fields) : Option (Origin × Fields) :=
  match fields.get? name with
  | none => some (own, fields.set name (.table .header []))
  | some (.table .implied inner) => some (own, fields.set name (.table .header inner))
  | some _ => none

/-- Adds a table to a list of tables. -/
def openItem (name : String) (own : Origin) (fields : Fields) : Option (Origin × Fields) :=
  match fields.get? name with
  | none => some (own, fields.set name (.items [[]]))
  | some (.items tables) => some (own, fields.set name (.items (tables ++ [[]])))
  | some _ => none

/-- Changes the table that the last part of a path is a name in. -/
def atParent (change : String → Origin → Fields → Option (Origin × Fields)) (path : List String)
    (fields : Fields) : Option Fields :=
  match path.getLast? with
  | none => none
  | some name => (within .implied (change name) path.dropLast .header fields).map (·.2)

/-! ## Documents -/

mutual

def Node.toJson : Node → Json
  | .value document => document
  | .table _ fields => .object (fieldsToJson fields)
  | .items tables => .array (tablesToJson tables)

def fieldsToJson : List (String × Node) → List (String × Json)
  | [] => []
  | (name, node) :: rest => (name, node.toJson) :: fieldsToJson rest

def tablesToJson : List (List (String × Node)) → List Json
  | [] => []
  | fields :: rest => .object (fieldsToJson fields) :: tablesToJson rest

end

/-- The name of the one field that a moment has as a document. -/
def momentField : String := "$__toml_private_datetime"

/-- The document for a fraction; what is no finite number has none. -/
def fractionDocument (spelling : String) : Json :=
  match (decimal? spelling.toList).bind Decimal.value? with
  | some x => .float x
  | none => .null

mutual

/-- A value as a document, unless a table in it gives a name twice. -/
def Value.toJson? : Value → Option Json
  | .text s => some (.string s)
  | .integer n => some (.int n)
  | .fraction spelling => some (fractionDocument spelling)
  | .truth b => some (.bool b)
  | .moment spelling => some (.object [(momentField, .string spelling)])
  | .array items => (itemsToJson? items).map .array
  | .table entries => do
    let entries ← entriesToJson? entries
    let fields ← entries.foldlM
      (fun fields (entry : List String × Json) =>
        (assign entry.1 entry.2 .header fields).map (·.2)) []
    some (.object (fieldsToJson fields))

def itemsToJson? : List Value → Option (List Json)
  | [] => some []
  | value :: rest => do
    let document ← value.toJson?
    let documents ← itemsToJson? rest
    some (document :: documents)

def entriesToJson? : List (List String × Value) → Option (List (List String × Json))
  | [] => some []
  | (key, value) :: rest => do
    let document ← value.toJson?
    let documents ← entriesToJson? rest
    some ((key, document) :: documents)

end

/-- The table that has been built, and the path of the table that is open. -/
structure Building where
  fields : Fields := []
  path : List String := []

def Building.step (b : Building) : Statement → Option Building
  | .assign key value => do
    let document ← value.toJson?
    let (_, fields) ← within .implied (assign key document) b.path .header b.fields
    some { b with fields }
  | .table path => do
    some { fields := ← atParent openTable path b.fields, path }
  | .tableItem path => do
    some { fields := ← atParent openItem path b.fields, path }

/-- The document that statements build. -/
def build? (statements : List Statement) : Option Json :=
  (statements.foldlM Building.step {}).map fun b => .object (fieldsToJson b.fields)

end SearchGateway.Toml
