import SearchGateway.Toml.Quotation

/-!
# Writing TOML

A line for each statement, and an empty line before each header that is not the first line. An
array of more than one item has a line for each of them.
-/

namespace SearchGateway.Toml

def writePath (path : List String) : List Char :=
  ['.'].intercalate (path.map fun part => writeKey part.toList)

mutual

def writeValue : Value → List Char
  | .text s => writeText s.toList
  | .integer n => (toString n).toList
  | .fraction spelling => spelling.toList
  | .truth b => (toString b).toList
  | .moment spelling => spelling.toList
  | .array [] => ['[', ']']
  | .array [item] => '[' :: writeValue item ++ [']']
  | .array items => '[' :: '\n' :: writeItems items ++ [']']
  | .table [] => ['\x7b', '\x7d']
  | .table (entry :: entries) =>
    '\x7b' :: ' ' :: writeEntries (entry :: entries) ++ ['\x7d']

/-- The characters of items, each on a line. -/
def writeItems : List Value → List Char
  | [] => []
  | item :: items => "    ".toList ++ writeValue item ++ ',' :: '\n' :: writeItems items

def writeEntries : List (List String × Value) → List Char
  | [] => []
  | [(key, value)] => writePath key ++ " = ".toList ++ writeValue value ++ [' ']
  | (key, value) :: entries =>
    writePath key ++ " = ".toList ++ writeValue value ++ ", ".toList ++ writeEntries entries

end

def writeStatement : Statement → List Char
  | .assign key value => writePath key ++ " = ".toList ++ writeValue value ++ ['\n']
  | .table path => '[' :: writePath path ++ "]\n".toList
  | .tableItem path => "[[".toList ++ writePath path ++ "]]\n".toList

/-- Whether a statement opens a table. -/
def Statement.isHeader : Statement → Bool
  | .assign _ _ => false
  | .table _ => true
  | .tableItem _ => true

/-- The characters of the statements after the first one. -/
def writeRest (statements : List Statement) : List Char :=
  statements.flatMap fun statement =>
    (if statement.isHeader then ['\n'] else []) ++ writeStatement statement

def write : List Statement → String
  | [] => ""
  | first :: rest => String.ofList (writeStatement first ++ writeRest rest)

end SearchGateway.Toml
