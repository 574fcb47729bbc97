import SearchGateway.Text.Numeral
import SearchGateway.Text.Unprintable

/-!
# Quoted texts in messages

A text between double quotes: a quote and a backslash get a backslash, the common controls have
letters, and other characters without a mark of their own are spelled `\u` with their number in
braces.
-/

namespace SearchGateway.Text.Quoted

/-- The spelling of one character. -/
def spell (c : Char) : String :=
  if c = '\x00' then "\\0"
  else if c = '\t' then "\\t"
  else if c = '\n' then "\\n"
  else if c = '\r' then "\\r"
  else if c = '"' then "\\\""
  else if c = '\\' then "\\\\"
  else if isUnprintable c then "\\u\x7b" ++ hexNumeral c.toNat ++ "\x7d"
  else c.toString

/-- The text between quotes. -/
def quote (s : String) : String :=
  "\"" ++ String.join (s.toList.map spell) ++ "\""

end SearchGateway.Text.Quoted
