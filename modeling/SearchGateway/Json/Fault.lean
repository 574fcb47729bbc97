import SearchGateway.Text.Utf8

/-!
# What can be wrong with a JSON text

A reader reports a fault with the number of bytes that are left after it; the line and the column
follow from the whole text.
-/

namespace SearchGateway.Json

/-- What can be wrong with a text. -/
inductive Flaw where
  | endInList
  | endInObject
  | endInString
  | endInValue
  | noColon
  | noListComma
  | noObjectComma
  | noWord
  | noValue
  | badEscape
  | badNumber
  | numberTooLarge
  | badUtf8
  | rawControl
  | keyNotString
  | loneSurrogate
  | trailingComma
  | trailingText
  | halfSurrogate
  | tooDeep
deriving DecidableEq, Repr

def Flaw.message : Flaw → String
  | .endInList => "EOF while parsing a list"
  | .endInObject => "EOF while parsing an object"
  | .endInString => "EOF while parsing a string"
  | .endInValue => "EOF while parsing a value"
  | .noColon => "expected \x60:\x60"
  | .noListComma => "expected \x60,\x60 or \x60]\x60"
  | .noObjectComma => "expected \x60,\x60 or \x60\x7d\x60"
  | .noWord => "expected ident"
  | .noValue => "expected value"
  | .badEscape => "invalid escape"
  | .badNumber => "invalid number"
  | .numberTooLarge => "number out of range"
  | .badUtf8 => "invalid unicode code point"
  | .rawControl => "control character (\\u0000-\\u001F) found while parsing a string"
  | .keyNotString => "key must be a string"
  | .loneSurrogate => "lone leading surrogate in hex escape"
  | .trailingComma => "trailing comma"
  | .trailingText => "trailing characters"
  | .halfSurrogate => "unexpected end of hex escape"
  | .tooDeep => "recursion limit exceeded"

/-- A flaw and the number of bytes after the place where it shows. -/
structure Fault where
  flaw : Flaw
  left : Nat
deriving DecidableEq, Repr

/-- A flaw with its line, from one, and its column in bytes. -/
structure SyntaxError where
  flaw : Flaw
  line : Nat
  column : Nat
deriving DecidableEq, Repr

def SyntaxError.message (e : SyntaxError) : String :=
  s!"{e.flaw.message} at line {e.line} column {e.column}"

/-- The position of a fault in its text: lines and columns count the bytes before it. -/
def Fault.locate (f : Fault) (input : Bytes) : SyntaxError :=
  let before := input.take (input.length - f.left)
  { flaw := f.flaw
    line := before.count 0x0A + 1
    column := (before.reverse.takeWhile (· != 0x0A)).length }

end SearchGateway.Json
