import SearchGateway.Text.Numeral
import SearchGateway.Toml.Basic

/-!
# Quoted texts

A text stands between quotation marks, with escapes, or between apostrophes, as it is. Three marks
begin a text of several lines. The writer takes the first form in which the text can stand as it
is, if there is one.
-/

namespace SearchGateway.Toml

/-! ## Reading -/

/-- The character that a letter after a backslash stands for. -/
def escape? : Char → Option Char
  | 'b' => some '\x08'
  | 't' => some '\t'
  | 'n' => some '\n'
  | 'f' => some '\x0c'
  | 'r' => some '\r'
  | '"' => some '"'
  | '\\' => some '\\'
  | _ => none

/-- The character with a number, if there is one. -/
def scalar? (n : Nat) : Option Char :=
  if h : n.isValidChar then some ⟨n.toUInt32, by
    have : n < 4294967296 := by
      rcases h with h | ⟨_, h⟩ <;> omega
    simpa [UInt32.isValidChar, Nat.toUInt32, UInt32.ofNat, UInt32.toNat, Nat.mod_eq_of_lt this]
      using h⟩
  else none

/-- Where the reader of a text stands. -/
inductive Scan where
  | plain
  | escaped
  | digits (left value : Nat)
  | gap
  | fold
deriving DecidableEq, Repr

/-- What follows a backslash: the next place to stand, and the character if it is complete. -/
def scanEscape (c : Char) : Option (Scan × List Char) :=
  if c = 'u' then some (.digits 4 0, [])
  else if c = 'U' then some (.digits 8 0, [])
  else (escape? c).map fun e => (.plain, [e])

/-- What follows a digit of a number. -/
def scanDigit (left value : Nat) (c : Char) : Option (Scan × List Char) := do
  let digit ← Text.hexadecimal? c
  let value := value * 16 + digit
  if 1 < left then some (.digits (left - 1) value, [])
  else (scalar? value).map fun e => (.plain, [e])

/-- Reads a text on one line up to its closing quotation mark. -/
def scanText : Scan → List Char → Option (List Char × List Char)
  | _, [] => none
  | .escaped, c :: rest => do
    let (next, read) ← scanEscape c
    let (s, rest) ← scanText next rest
    return (read ++ s, rest)
  | .digits left value, c :: rest => do
    let (next, read) ← scanDigit left value c
    let (s, rest) ← scanText next rest
    return (read ++ s, rest)
  | _, c :: rest =>
    if c = '"' then some ([], rest)
    else if c = '\\' then scanText .escaped rest
    else if isPrintable c then (scanText .plain rest).map fun (s, rest) => (c :: s, rest)
    else none

/-- The marks before the end of a text that belong to it, which are two at most. -/
def closing (mark : Char) : List Char → List Char × List Char
  | a :: b :: rest =>
    if a = mark then if b = mark then ([a, b], rest) else ([a], b :: rest) else ([], a :: b :: rest)
  | [a] => if a = mark then ([a], []) else ([], [a])
  | [] => ([], [])

def isTriple (mark : Char) : List Char → Bool
  | a :: b :: c :: _ => a == mark && b == mark && c == mark
  | _ => false

/-- Reads a text of several lines up to its closing quotation marks. A backslash at the end of a
line takes away the blanks and line breaks that follow. -/
def scanLines : Scan → List Char → Option (List Char × List Char)
  | _, [] => none
  | .escaped, c :: rest =>
    if isGap c then scanLines .gap rest
    else if c = '\n' then scanLines .fold rest
    else do
      let (next, read) ← scanEscape c
      let (s, rest) ← scanLines next rest
      return (read ++ s, rest)
  | .digits left value, c :: rest => do
    let (next, read) ← scanDigit left value c
    let (s, rest) ← scanLines next rest
    return (read ++ s, rest)
  -- A gap behind a backslash has to end the line.
  | .gap, c :: rest =>
    if isGap c then scanLines .gap rest
    else if c = '\n' then scanLines .fold rest
    else none
  | state, c :: rest =>
    if state = .fold ∧ (isGap c ∨ c = '\n') then scanLines .fold rest
    else if isTriple '"' (c :: rest) then some (closing '"' (rest.drop 2))
    else if c = '\\' then scanLines .escaped rest
    else if isPrintable c ∨ c = '\n' then
      (scanLines .plain rest).map fun (s, rest) => (c :: s, rest)
    else none

/-- Reads a text of several lines up to its closing apostrophes. -/
def scanLiteralLines : List Char → Option (List Char × List Char)
  | [] => none
  | c :: rest =>
    if isTriple '\'' (c :: rest) then some (closing '\'' (rest.drop 2))
    else if isPrintable c ∨ c = '\n' then
      (scanLiteralLines rest).map fun (s, rest) => (c :: s, rest)
    else none

/-- Reads a text on one line up to its closing apostrophe. -/
def scanLiteral : List Char → Option (List Char × List Char)
  | [] => none
  | c :: rest =>
    if c = '\'' then some ([], rest)
    else if isPrintable c then (scanLiteral rest).map fun (s, rest) => (c :: s, rest)
    else none

/-- Drops the line break that may follow the opening marks. -/
def dropBreak : List Char → List Char
  | '\n' :: rest => rest
  | rest => rest

def readQuoted? : List Char → Option (String × List Char)
  | '"' :: rest => (scanText .plain rest).map fun (s, rest) => (String.ofList s, rest)
  | '\'' :: rest => (scanLiteral rest).map fun (s, rest) => (String.ofList s, rest)
  | _ => none

def readText? (cs : List Char) : Option (String × List Char) :=
  if isTriple '"' cs then
    (scanLines .plain (dropBreak (cs.drop 3))).map fun (s, rest) => (String.ofList s, rest)
  else if isTriple '\'' cs then
    (scanLiteralLines (dropBreak (cs.drop 3))).map fun (s, rest) => (String.ofList s, rest)
  else readQuoted? cs

/-! ## Writing -/

/-- A hexadecimal digit in upper case. -/
def upperDigit (n : Nat) : Char :=
  if n < 10 then Char.ofNat (n + 48) else Char.ofNat (n + 55)

/-- The spelling of a character between quotation marks on one line. -/
def spell (c : Char) : List Char :=
  if c = '\x08' then ['\\', 'b']
  else if c = '\t' then ['\\', 't']
  else if c = '\n' then ['\\', 'n']
  else if c = '\x0c' then ['\\', 'f']
  else if c = '\r' then ['\\', 'r']
  else if c = '"' then ['\\', '"']
  else if c = '\\' then ['\\', '\\']
  else if c.toNat < 0x20 ∨ c.toNat = 0x7F then
    ['\\', 'u', '0', '0', upperDigit (c.toNat / 16), upperDigit (c.toNat % 16)]
  else [c]

/-- The spelling of a text of several lines, which keeps its line breaks and its marks but for every
third mark in a row; `run` counts the marks in front. -/
def spellLines (run : Nat) : List Char → List Char
  | [] => []
  | c :: rest =>
    if c = '"' then
      if run < 2 then '"' :: spellLines (run + 1) rest else '\\' :: '"' :: spellLines 0 rest
    else if c = '\n' then '\n' :: spellLines 0 rest
    else spell c ++ spellLines 0 rest

/-- The length of the longest run of a mark, given the run that ends where the text begins. -/
def longestRun (mark : Char) (run : Nat) : List Char → Nat
  | [] => run
  | c :: rest =>
    if c = mark then longestRun mark (run + 1) rest else max run (longestRun mark 0 rest)

/-- Whether every character can stand in a text of several lines without an escape for controls. -/
def isPlain (s : List Char) : Bool :=
  s.all fun c => isPrintable c || c == '\n'

/-- The forms of a quoted text. -/
inductive Form where
  | text
  | literal
  | lines
  | literalLines
deriving DecidableEq, Repr

/-- The form for a text as a value: the first in which it can stand as it is, but for tabs, or else
one with escapes. -/
def Form.ofValue (s : List Char) : Form :=
  let breaks := s.contains '\n'
  let marks := longestRun '"' 0 s
  let apostrophes := longestRun '\'' 0 s
  let escapes := s.contains '\\'
  -- A form on one line goes before one on several, and quotation marks before apostrophes.
  if isPlain s && !escapes && marks == 0 && !breaks then .text
  else if isPlain s && apostrophes == 0 && !breaks then .literal
  else if isPlain s && !escapes && decide (marks ≤ 2) then .lines
  else if isPlain s && decide (apostrophes ≤ 2) then .literalLines
  else if breaks then .lines
  else .text

/-- The characters of a text in a form. A line break after the opening marks is no part of it. -/
def Form.write (form : Form) (s : List Char) : List Char :=
  let start := if s.contains '\n' then ['\n'] else []
  match form with
  | .text => '"' :: s.flatMap spell ++ ['"']
  | .literal => '\'' :: s ++ ['\'']
  | .lines => "\"\"\"".toList ++ start ++ spellLines 0 s ++ "\"\"\"".toList
  | .literalLines => "'''".toList ++ start ++ s ++ "'''".toList

def writeText (s : List Char) : List Char :=
  (Form.ofValue s).write s

/-- The form for a text as a key that needs quotation. -/
def Form.ofKey (s : List Char) : Form :=
  if s.all isPrintable && (s.contains '"' || s.contains '\\') && !s.contains '\'' then .literal
  else .text

/-- The characters of a text as a key. -/
def writeKey (s : List Char) : List Char :=
  if !s.isEmpty && s.all isBare then s else (Form.ofKey s).write s

end SearchGateway.Toml
