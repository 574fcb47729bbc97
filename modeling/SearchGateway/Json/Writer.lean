import SearchGateway.Json.Basic
import SearchGateway.Json.Shortest
import SearchGateway.Text.Numeral

/-!
# JSON text

`compact` writes without blanks, `pretty` indents by two spaces a level. In strings a quote, a
backslash and the controls below U+0020 are escaped and nothing else is.
-/

namespace SearchGateway.Json

/-- The spelling of a character inside a string. -/
def spellChar (c : Char) : List Char :=
  if c = '"' then ['\\', '"']
  else if c = '\\' then ['\\', '\\']
  else if c = '\n' then ['\\', 'n']
  else if c = '\r' then ['\\', 'r']
  else if c = '\t' then ['\\', 't']
  else if c = '\x08' then ['\\', 'b']
  else if c = '\x0c' then ['\\', 'f']
  else if c.toNat < 0x20 then
    ['\\', 'u', '0', '0', Text.hexDigit (c.toNat / 16), Text.hexDigit (c.toNat % 16)]
  else [c]

def spellString (s : String) : List Char :=
  '"' :: (s.toList.flatMap spellChar ++ ['"'])

def spellInt (n : Int) : List Char :=
  (if n < 0 then ['-'] else []) ++ Nat.toDigits 10 n.natAbs

/-- The spelling of a value that holds no other value. -/
def spellLeaf : Json → List Char
  | .null => ['n', 'u', 'l', 'l']
  | .bool true => ['t', 'r', 'u', 'e']
  | .bool false => ['f', 'a', 'l', 's', 'e']
  | .int n => spellInt n
  | .float x => x.text
  | .string s => spellString s
  | .array _ => []
  | .object _ => []

/-- A line break and the indentation of a level. -/
def lineBreak (level : Nat) : List Char :=
  '\n' :: List.replicate (2 * level) ' '

mutual

/-- The characters of a value without blanks. -/
def compactChars : Json → List Char
  | .array [] => ['[', ']']
  | .array (v :: vs) => '[' :: (compactChars v ++ (compactItems vs ++ [']']))
  | .object [] => ['\x7b', '\x7d']
  | .object ((k, v) :: fs) =>
    '\x7b' :: (spellString k ++ ':' :: (compactChars v ++ (compactFields fs ++ ['\x7d'])))
  | leaf => spellLeaf leaf

/-- The items after the first one. -/
def compactItems : List Json → List Char
  | [] => []
  | v :: vs => ',' :: (compactChars v ++ compactItems vs)

/-- The fields after the first one. -/
def compactFields : List (String × Json) → List Char
  | [] => []
  | (k, v) :: fs => ',' :: (spellString k ++ ':' :: (compactChars v ++ compactFields fs))

end

mutual

/-- The characters of a value that stands at an indentation level. -/
def prettyChars (level : Nat) : Json → List Char
  | .array [] => ['[', ']']
  | .array (v :: vs) =>
    '[' :: (lineBreak (level + 1) ++ prettyChars (level + 1) v ++
      (prettyItems (level + 1) vs ++ (lineBreak level ++ [']'])))
  | .object [] => ['\x7b', '\x7d']
  | .object ((k, v) :: fs) =>
    '\x7b' :: (lineBreak (level + 1) ++ spellString k ++ ':' :: ' ' ::
      (prettyChars (level + 1) v ++ (prettyFields (level + 1) fs ++ (lineBreak level ++ ['\x7d']))))
  | leaf => spellLeaf leaf

/-- The items after the first one. -/
def prettyItems (level : Nat) : List Json → List Char
  | [] => []
  | v :: vs => ',' :: (lineBreak level ++ prettyChars level v ++ prettyItems level vs)

/-- The fields after the first one. -/
def prettyFields (level : Nat) : List (String × Json) → List Char
  | [] => []
  | (k, v) :: fs =>
    ',' :: (lineBreak level ++ spellString k ++ ':' :: ' ' ::
      (prettyChars level v ++ prettyFields level fs))

end

/-- The text of a document without blanks. -/
def compact (j : Json) : String :=
  String.ofList (compactChars j)

/-- The text of a document with one item or field a line. -/
def pretty (j : Json) : String :=
  String.ofList (prettyChars 0 j)

end SearchGateway.Json
