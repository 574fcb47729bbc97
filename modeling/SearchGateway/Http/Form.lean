import SearchGateway.Text.Numeral
import SearchGateway.Text.Split
import SearchGateway.Text.Utf8

/-!
# Percent encoding and form-encoded queries

A percent sign stands for itself unless two hexadecimal digits follow. In a query a plus sign is
a space, pairs stand between `&` and a pair is cut at its first `=`.
-/

namespace SearchGateway.Http

/-- The bytes with their percent escapes resolved. -/
def percentDecode : Bytes → Bytes
  | [] => []
  | 0x25 :: a :: b :: rest =>
    match Text.hexByte? a, Text.hexByte? b with
    | some high, some low => UInt8.ofNat (high * 16 + low) :: percentDecode rest
    | _, _ => 0x25 :: percentDecode (a :: b :: rest)
  | b :: rest => b :: percentDecode rest

/-- The text that a form-encoded name or value stands for. -/
def formText (bytes : Bytes) : String :=
  Text.Utf8.decodeLossy (percentDecode (bytes.map fun b => if b == 0x2B then 0x20 else b))

/-- The name and the value of one piece of a query. -/
def formPair (piece : Bytes) : String × String :=
  let isEquals (b : UInt8) : Bool := b == 0x3D
  (formText (piece.takeWhile (!isEquals ·)), formText ((piece.dropWhile (!isEquals ·)).drop 1))

/-- The pairs of a query in order; empty pieces do not count. -/
def formPairs (query : String) : List (String × String) :=
  ((Text.split (· == 0x26) (Text.Utf8.encode query)).filter (!·.isEmpty)).map formPair

end SearchGateway.Http
