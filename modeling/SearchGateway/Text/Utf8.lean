/-!
# UTF-8

Bytes are lists of `UInt8`. `next` reads one scalar value or one ill-formed run; the strict and
the lossy reader and the position of the first fault are all stated over it.
-/

namespace SearchGateway

/-- Raw bytes, such as a message body or a header value. -/
abbrev Bytes := List UInt8

namespace Text.Utf8

def encode (s : String) : Bytes :=
  s.toList.flatMap String.utf8EncodeChar

def isContinuation (b : UInt8) : Bool :=
  0x80 ≤ b && b ≤ 0xBF

def payload (b : UInt8) : Nat :=
  b.toNat % 0x40

/-- The range in which the second byte of a sequence with this lead byte must lie. -/
def secondRange (lead : UInt8) : UInt8 × UInt8 :=
  -- Nothing is longer than it has to be, a surrogate, or above U+10FFFF.
  if lead == 0xE0 then (0xA0, 0xBF)
  else if lead == 0xED then (0x80, 0x9F)
  else if lead == 0xF0 then (0x90, 0xBF)
  else if lead == 0xF4 then (0x80, 0x8F)
  else (0x80, 0xBF)

/-- One step of reading: a scalar value, or the length of the ill-formed run in front. -/
inductive Step where
  | scalar (c : Char) (width : Nat)
  | illFormed (width : Nat)

/-- Reads the sequence that starts with `lead`; `rest` are the bytes after it. -/
def next (lead : UInt8) (rest : Bytes) : Step :=
  let (low, high) := secondRange lead
  let second (b : UInt8) : Bool := low ≤ b && b ≤ high
  if lead < 0x80 then .scalar (Char.ofNat lead.toNat) 1
  -- No character begins with a continuation byte or is written longer than it has to be.
  else if lead < 0xC2 then .illFormed 1
  else if lead < 0xE0 then
    match rest with
    | b :: _ =>
      if second b then .scalar (Char.ofNat (lead.toNat % 0x20 * 0x40 + payload b)) 2
      else .illFormed 1
    | [] => .illFormed 1
  else if lead < 0xF0 then
    match rest with
    | b :: c :: _ =>
      if !second b then .illFormed 1
      else if !isContinuation c then .illFormed 2
      else .scalar (Char.ofNat ((lead.toNat % 0x10 * 0x40 + payload b) * 0x40 + payload c)) 3
    | [b] => .illFormed (if second b then 2 else 1)
    | [] => .illFormed 1
  else if lead < 0xF5 then
    match rest with
    | b :: c :: d :: _ =>
      if !second b then .illFormed 1
      else if !isContinuation c then .illFormed 2
      else if !isContinuation d then .illFormed 3
      else .scalar (Char.ofNat
        (((lead.toNat % 0x08 * 0x40 + payload b) * 0x40 + payload c) * 0x40 + payload d)) 4
    | [b, c] =>
      .illFormed (if !second b then 1 else if !isContinuation c then 2 else 3)
    | [b] => .illFormed (if second b then 2 else 1)
    | [] => .illFormed 1
  else .illFormed 1

/-- The scalar values of the bytes, or the offset of the first byte that is ill-formed. -/
def scalars (bytes : Bytes) : Except Nat (List Char) :=
  go 0 [] bytes
where
  go (offset : Nat) (seen : List Char) : Bytes → Except Nat (List Char)
    | [] => .ok seen.reverse
    | lead :: rest =>
      match next lead rest with
      | .scalar c width => go (offset + width) (c :: seen) (rest.drop (width - 1))
      | .illFormed _ => .error offset
  termination_by bytes => bytes.length
  decreasing_by simp only [List.length_drop, List.length_cons]; omega

/-- The text of the bytes, or the offset of the first byte that is ill-formed. -/
def decode (bytes : Bytes) : Except Nat String :=
  (scalars bytes).map String.ofList

/-- The text of well-formed bytes. -/
def decode? (bytes : Bytes) : Option String :=
  (decode bytes).toOption

/-- The text of the bytes, each ill-formed run replaced by U+FFFD. -/
def decodeLossy (bytes : Bytes) : String :=
  String.ofList (go [] bytes)
where
  go (seen : List Char) : Bytes → List Char
    | [] => seen.reverse
    | lead :: rest =>
      match next lead rest with
      | .scalar c width => go (c :: seen) (rest.drop (width - 1))
      | .illFormed width => go ('\uFFFD' :: seen) (rest.drop (width - 1))
  termination_by bytes => bytes.length
  decreasing_by all_goals (simp only [List.length_drop, List.length_cons]; omega)

end Text.Utf8

end SearchGateway
