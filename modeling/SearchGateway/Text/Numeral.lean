/-!
# Numerals

Readers for unsigned decimal and for hexadecimal numerals, over characters and over bytes.
-/

namespace SearchGateway.Text

/-- The value of an ASCII decimal digit. -/
def decimal? (c : Char) : Option Nat :=
  if '0' ≤ c ∧ c ≤ '9' then some (c.toNat - 48) else none

/-- The value of an ASCII hexadecimal digit of either case. -/
def hexadecimal? (c : Char) : Option Nat :=
  if '0' ≤ c ∧ c ≤ '9' then some (c.toNat - 48)
  else if 'a' ≤ c ∧ c ≤ 'f' then some (c.toNat - 87)
  else if 'A' ≤ c ∧ c ≤ 'F' then some (c.toNat - 55)
  else none

/-- The value of a byte that is a hexadecimal digit in ASCII. -/
def hexByte? (b : UInt8) : Option Nat :=
  hexadecimal? (Char.ofNat b.toNat)

/-- The value of a text of digits, most significant first; every character must be one. -/
def digits? (base : Nat) (digit : Char → Option Nat) (s : List Char) : Option Nat :=
  s.foldlM (fun n c => (digit c).map (n * base + ·)) 0

/-- The value of an unsigned numeral below `limit`: an optional `+` and at least one digit. -/
def unsigned? (limit : Nat) (s : String) : Option Nat :=
  let digits :=
    match s.toList with
    | '+' :: rest => rest
    | all => all
  if digits.isEmpty then none
  else (digits? 10 decimal? digits).filter (· < limit)

/-- The lower-case hexadecimal digit for a number below sixteen. -/
def hexDigit (n : Nat) : Char :=
  if n < 10 then Char.ofNat (n + 48) else Char.ofNat (n + 87)

/-- Two lower-case hexadecimal digits for each byte. -/
def hex (bytes : List UInt8) : String :=
  String.ofList (bytes.flatMap fun b => [hexDigit (b.toNat / 16), hexDigit (b.toNat % 16)])

/-- The lower-case hexadecimal numeral without leading zeros. -/
def hexNumeral (n : Nat) : String :=
  String.ofList (Nat.toDigits 16 n)

end SearchGateway.Text
