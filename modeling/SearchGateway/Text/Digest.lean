import SearchGateway.Text.Utf8
import SearchGateway.Text.Numeral

/-!
# SHA-256

The digest of FIPS 180-4 over byte lists, and its hexadecimal text.
-/

namespace SearchGateway.Text.Digest

/-- The round constants: fractional parts of the cube roots of the first 64 primes. -/
def roundConstants : Array UInt32 := #[
  0x428a2f98, 0x71374491, 0xb5c0fbcf, 0xe9b5dba5, 0x3956c25b, 0x59f111f1, 0x923f82a4, 0xab1c5ed5,
  0xd807aa98, 0x12835b01, 0x243185be, 0x550c7dc3, 0x72be5d74, 0x80deb1fe, 0x9bdc06a7, 0xc19bf174,
  0xe49b69c1, 0xefbe4786, 0x0fc19dc6, 0x240ca1cc, 0x2de92c6f, 0x4a7484aa, 0x5cb0a9dc, 0x76f988da,
  0x983e5152, 0xa831c66d, 0xb00327c8, 0xbf597fc7, 0xc6e00bf3, 0xd5a79147, 0x06ca6351, 0x14292967,
  0x27b70a85, 0x2e1b2138, 0x4d2c6dfc, 0x53380d13, 0x650a7354, 0x766a0abb, 0x81c2c92e, 0x92722c85,
  0xa2bfe8a1, 0xa81a664b, 0xc24b8b70, 0xc76c51a3, 0xd192e819, 0xd6990624, 0xf40e3585, 0x106aa070,
  0x19a4c116, 0x1e376c08, 0x2748774c, 0x34b0bcb5, 0x391c0cb3, 0x4ed8aa4a, 0x5b9cca4f, 0x682e6ff3,
  0x748f82ee, 0x78a5636f, 0x84c87814, 0x8cc70208, 0x90befffa, 0xa4506ceb, 0xbef9a3f7, 0xc67178f2]

/-- The eight working words. -/
structure Words where
  a : UInt32
  b : UInt32
  c : UInt32
  d : UInt32
  e : UInt32
  f : UInt32
  g : UInt32
  h : UInt32

def initial : Words :=
  ⟨0x6a09e667, 0xbb67ae85, 0x3c6ef372, 0xa54ff53a, 0x510e527f, 0x9b05688c, 0x1f83d9ab, 0x5be0cd19⟩

def rotate (x : UInt32) (n : UInt32) : UInt32 :=
  (x >>> n) ||| (x <<< (32 - n))

/-- One round with a round constant and a word of the schedule. -/
def round (w : Words) (constant scheduled : UInt32) : Words :=
  let big1 := rotate w.e 6 ^^^ rotate w.e 11 ^^^ rotate w.e 25
  let choice := (w.e &&& w.f) ^^^ (~~~w.e &&& w.g)
  let t1 := w.h + big1 + choice + constant + scheduled
  let big0 := rotate w.a 2 ^^^ rotate w.a 13 ^^^ rotate w.a 22
  let majority := (w.a &&& w.b) ^^^ (w.a &&& w.c) ^^^ (w.b &&& w.c)
  ⟨t1 + (big0 + majority), w.a, w.b, w.c, w.d + t1, w.e, w.f, w.g⟩

/-- The 64 words that a block of 16 words expands to. -/
def schedule (block : Array UInt32) : Array UInt32 :=
  (List.range 48).foldl (fun w i =>
    let x15 := w.getD (i + 1) 0
    let x2 := w.getD (i + 14) 0
    let s0 := rotate x15 7 ^^^ rotate x15 18 ^^^ (x15 >>> 3)
    let s1 := rotate x2 17 ^^^ rotate x2 19 ^^^ (x2 >>> 10)
    w.push (w.getD i 0 + s0 + w.getD (i + 9) 0 + s1)) block

def compress (w : Words) (block : Array UInt32) : Words :=
  let words := schedule block
  let r := (List.range 64).foldl
    (fun s i => round s (roundConstants.getD i 0) (words.getD i 0)) w
  ⟨w.a + r.a, w.b + r.b, w.c + r.c, w.d + r.d, w.e + r.e, w.f + r.f, w.g + r.g, w.h + r.h⟩

/-- The four bytes of a word, most significant first. -/
def bytesOfWord (x : UInt32) : Bytes :=
  [(x >>> 24).toUInt8, (x >>> 16).toUInt8, (x >>> 8).toUInt8, x.toUInt8]

/-- Reads bytes as words, most significant byte first. -/
def wordsOfBytes : Bytes → List UInt32
  | a :: b :: c :: d :: rest =>
    ((a.toUInt32 <<< 24) ||| (b.toUInt32 <<< 16) ||| (c.toUInt32 <<< 8) ||| d.toUInt32) ::
      wordsOfBytes rest
  | _ => []

/-- The message, a one bit, zeros up to 56 modulo 64 bytes, and the length in bits. -/
def pad (message : Bytes) : Bytes :=
  -- The bit takes a byte and the length eight, which leaves 55 of a block.
  let zeros := (119 - message.length % 64) % 64
  let bits := message.length * 8
  message ++ ((0x80 : UInt8) :: List.replicate zeros 0) ++
    [UInt8.ofNat (bits >>> 56), UInt8.ofNat (bits >>> 48), UInt8.ofNat (bits >>> 40),
      UInt8.ofNat (bits >>> 32), UInt8.ofNat (bits >>> 24), UInt8.ofNat (bits >>> 16),
      UInt8.ofNat (bits >>> 8), UInt8.ofNat bits]

def absorb (w : Words) (words : List UInt32) : Words :=
  match words with
  | [] => w
  | x :: rest => absorb (compress w (x :: rest.take 15).toArray) (rest.drop 15)
termination_by words.length
decreasing_by simp only [List.length_drop, List.length_cons]; omega

/-- The 32 bytes of the digest. -/
def sha256 (message : Bytes) : Bytes :=
  let w := absorb initial (wordsOfBytes (pad message))
  [w.a, w.b, w.c, w.d, w.e, w.f, w.g, w.h].flatMap bytesOfWord

/-- The digest of a text in lower-case hexadecimal. -/
def sha256Hex (s : String) : String :=
  hex (sha256 (Utf8.encode s))

end SearchGateway.Text.Digest
