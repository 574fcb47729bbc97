import SearchGateway.Toml.Quotation
import SearchGateway.Toml.Word

/-!
# Reading TOML

`read?` yields the statements of a document of TOML 1.0. Line breaks may be written with a
carriage return in front, and a byte order mark may stand at the beginning.
-/

namespace SearchGateway.Toml

/-- How deep values may nest and how many parts a key may have, plus one. -/
def maxDepth : Nat := 80

/-! ## Gaps -/

def dropGap (cs : List Char) : List Char :=
  cs.dropWhile isGap

/-- Drops gaps, line breaks and comments in front. -/
def dropVoid (comment : Bool) : List Char → List Char
  | [] => []
  | c :: rest =>
    if c = '\n' then dropVoid false rest
    -- A control cannot stand in a comment; nothing can be read from it either.
    else if comment then if isPrintable c then dropVoid true rest else c :: rest
    else if isGap c then dropVoid false rest
    else if c = '#' then dropVoid true rest
    else c :: rest

/-- The rest after the end of a line, before which a comment may stand. -/
def afterLine? (cs : List Char) : Option (List Char) :=
  let rest := match dropGap cs with
    | '#' :: comment => comment.dropWhile isPrintable
    | rest => rest
  match rest with
  | [] => some []
  | '\n' :: rest => some rest
  | _ => none

/-! ## Keys -/

def readPart? (cs : List Char) : Option (String × List Char) :=
  match cs with
  | '"' :: _ => readQuoted? cs
  | '\'' :: _ => readQuoted? cs
  | _ =>
    let part := cs.takeWhile isBare
    if part.isEmpty then none else some (String.ofList part, cs.dropWhile isBare)

/-- Reads a key of at most `limit` parts with dots between them, and the gap after it. -/
def readKey? : Nat → List Char → Option (List String × List Char)
  | 0, _ => none
  | limit + 1, cs => do
    let (part, rest) ← readPart? cs
    match dropGap rest with
    | '.' :: rest =>
      let (parts, rest) ← readKey? limit (dropGap rest)
      some (part :: parts, rest)
    | rest => some ([part], rest)

def readPath? (cs : List Char) : Option (List String × List Char) :=
  readKey? (maxDepth - 1) cs

/-! ## Values -/

mutual

/-- Reads a value; `depth` values may still be nested. -/
def readValue? (fuel depth : Nat) (cs : List Char) : Option (Value × List Char) :=
  match fuel with
  | 0 => none
  | fuel + 1 =>
    match cs with
    | '"' :: _ => (readText? cs).map fun (s, rest) => (.text s, rest)
    | '\'' :: _ => (readText? cs).map fun (s, rest) => (.text s, rest)
    | '[' :: rest =>
      match depth with
      | 0 => none
      | depth + 1 =>
        (readItems? fuel depth (dropVoid false rest)).map fun (items, rest) => (.array items, rest)
    | '\x7b' :: rest =>
      match depth with
      | 0 => none
      | depth + 1 =>
        match dropGap rest with
        | '\x7d' :: rest => some (.table [], rest)
        | rest =>
          (readEntries? fuel depth rest).map fun (entries, rest) => (.table entries, rest)
    | _ => readWord? cs

/-- Reads the items of an array up to its closing bracket. -/
def readItems? (fuel depth : Nat) (cs : List Char) : Option (List Value × List Char) :=
  match fuel with
  | 0 => none
  | fuel + 1 =>
    match cs with
    -- The bracket may also stand behind a comma.
    | ']' :: rest => some ([], rest)
    | _ => do
      let (item, rest) ← readValue? fuel depth cs
      match dropVoid false rest with
      | ',' :: rest =>
        let (items, rest) ← readItems? fuel depth (dropVoid false rest)
        some (item :: items, rest)
      | ']' :: rest => some ([item], rest)
      | _ => none

/-- Reads the entries of a table on one line up to its closing brace. -/
def readEntries? (fuel depth : Nat) (cs : List Char) :
    Option (List (List String × Value) × List Char) :=
  match fuel with
  | 0 => none
  | fuel + 1 => do
    let (key, rest) ← readPath? cs
    match rest with
    | '=' :: rest =>
      let (value, rest) ← readValue? fuel depth (dropGap rest)
      match dropGap rest with
      -- Here an entry has to follow the comma.
      | ',' :: rest =>
        let (entries, rest) ← readEntries? fuel depth (dropGap rest)
        some ((key, value) :: entries, rest)
      | '\x7d' :: rest => some ([(key, value)], rest)
      | _ => none
    | _ => none

end

/-! ## Statements -/

/-- Reads a header after its opening brackets, with as many closing ones. -/
def readHeader? (brackets : Nat) (cs : List Char) : Option (List String × List Char) := do
  let (path, rest) ← readPath? (dropGap cs)
  if rest.take brackets = List.replicate brackets ']' then some (path, rest.drop brackets) else none

def readStatement? (cs : List Char) : Option (Statement × List Char) :=
  match cs with
  | '[' :: '[' :: rest => (readHeader? 2 rest).map fun (path, rest) => (.tableItem path, rest)
  | '[' :: rest => (readHeader? 1 rest).map fun (path, rest) => (.table path, rest)
  | _ => do
    let (key, rest) ← readPath? cs
    match rest with
    | '=' :: rest =>
      let rest := dropGap rest
      -- No more than two of the readers are entered in turn without a character being taken.
      let (value, rest) ← readValue? (2 * rest.length + 1) (maxDepth - 1) rest
      some (.assign key value, rest)
    | _ => none

/-- Reads statements line by line; `fuel` bounds the number of lines. -/
def readStatements? : Nat → List Char → Option (List Statement)
  | 0, _ => none
  | fuel + 1, cs =>
    match dropVoid false cs with
    | [] => some []
    | rest => do
      let (statement, rest) ← readStatement? rest
      let statements ← readStatements? fuel (← afterLine? rest)
      some (statement :: statements)

/-- The text with a single character for each line break. -/
def plainBreaks : List Char → List Char
  | '\r' :: '\n' :: rest => '\n' :: plainBreaks rest
  | c :: rest => c :: plainBreaks rest
  | [] => []

def dropMark : List Char → List Char
  | '\uFEFF' :: rest => rest
  | rest => rest

def read? (document : String) : Option (List Statement) :=
  let cs := plainBreaks (dropMark document.toList)
  readStatements? (cs.length + 1) cs

end SearchGateway.Toml
