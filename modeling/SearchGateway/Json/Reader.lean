import SearchGateway.Json.Numeral
import SearchGateway.Json.Quotation
import SearchGateway.Keyed

/-!
# Reading JSON

`read` accepts the documents of RFC 8259 in UTF-8 whose values nest at most 127 deep, or says what
is wrong at which line and column. Of equal keys in an object the last one counts.
-/

namespace SearchGateway.Json

def isGap (b : UInt8) : Bool :=
  b == 0x20 || b == 0x0A || b == 0x09 || b == 0x0D

def skipGap (bs : Bytes) : Bytes :=
  bs.dropWhile isGap

def readWord : List UInt8 → Bytes → Except Fault Bytes
  | [], bs => .ok bs
  | _ :: _, [] => .error ⟨.endInValue, 0⟩
  | w :: word, b :: bs => if b == w then readWord word bs else .error ⟨.noWord, bs.length⟩

mutual

/-- Reads a value; `depth` levels of nesting may be opened, the last of them may not. -/
def readValue (fuel depth : Nat) (bs : Bytes) : Except Fault (Json × Bytes) :=
  match fuel with
  | 0 => .error ⟨.endInValue, 0⟩
  | fuel + 1 =>
    match skipGap bs with
    | [] => .error ⟨.endInValue, 0⟩
    | b :: rest =>
      if b == 0x6E then (readWord [0x75, 0x6C, 0x6C] rest).map (.null, ·)
      else if b == 0x74 then (readWord [0x72, 0x75, 0x65] rest).map (.bool true, ·)
      else if b == 0x66 then (readWord [0x61, 0x6C, 0x73, 0x65] rest).map (.bool false, ·)
      else if b == 0x2D then readNumber true rest
      else if (digitOf? b).isSome then readNumber false (b :: rest)
      else if b == 0x22 then
        match readString rest with
        | .error e => .error e
        | .ok (s, rest) => .ok (.string s, rest)
      else if b == 0x5B then
        if depth ≤ 1 then .error ⟨.tooDeep, rest.length⟩
        else readItems fuel (depth - 1) none rest
      else if b == 0x7B then
        if depth ≤ 1 then .error ⟨.tooDeep, rest.length⟩
        else readFields fuel (depth - 1) none rest
      else .error ⟨.noValue, rest.length⟩

/-- Reads the items up to the closing bracket; `seen` holds those before, last one first. -/
def readItems (fuel depth : Nat) (seen : Option (List Json)) (bs : Bytes) :
    Except Fault (Json × Bytes) :=
  match fuel with
  | 0 => .error ⟨.endInList, 0⟩
  | fuel + 1 =>
    match skipGap bs with
    | [] => .error ⟨.endInList, 0⟩
    | b :: rest =>
      if b == 0x5D then .ok (.array (seen.getD []).reverse, rest)
      else
        match seen with
        | none => readItem fuel depth [] (b :: rest)
        | some items =>
          if b == 0x2C then
            match skipGap rest with
            | [] => .error ⟨.endInValue, 0⟩
            | c :: more =>
              if c == 0x5D then .error ⟨.trailingComma, more.length⟩
              else readItem fuel depth items (c :: more)
          else .error ⟨.noListComma, rest.length⟩

/-- Reads an item and those after it. -/
def readItem (fuel depth : Nat) (seen : List Json) (bs : Bytes) : Except Fault (Json × Bytes) :=
  match fuel with
  | 0 => .error ⟨.endInList, 0⟩
  | fuel + 1 =>
    match readValue fuel depth bs with
    | .error e => .error e
    | .ok (v, rest) => readItems fuel depth (some (v :: seen)) rest

/-- Reads the fields up to the closing brace; `seen` holds those before, sorted by key. -/
def readFields (fuel depth : Nat) (seen : Option (List (String × Json))) (bs : Bytes) :
    Except Fault (Json × Bytes) :=
  match fuel with
  | 0 => .error ⟨.endInObject, 0⟩
  | fuel + 1 =>
    match skipGap bs with
    | [] => .error ⟨.endInObject, 0⟩
    | b :: rest =>
      if b == 0x7D then .ok (.object (seen.getD []), rest)
      else
        match seen with
        | none =>
          if b == 0x22 then readField fuel depth [] rest
          else .error ⟨.keyNotString, rest.length⟩
        | some fields =>
          if b == 0x2C then
            match skipGap rest with
            | [] => .error ⟨.endInValue, 0⟩
            | c :: more =>
              if c == 0x22 then readField fuel depth fields more
              else if c == 0x7D then .error ⟨.trailingComma, more.length⟩
              else .error ⟨.keyNotString, more.length⟩
          else .error ⟨.noObjectComma, rest.length⟩

/-- Reads a field after the opening quote of its key, and the fields after it. -/
def readField (fuel depth : Nat) (seen : List (String × Json)) (bs : Bytes) :
    Except Fault (Json × Bytes) :=
  match fuel with
  | 0 => .error ⟨.endInObject, 0⟩
  | fuel + 1 =>
    match readString bs with
    | .error e => .error e
    | .ok (key, rest) =>
      match skipGap rest with
      | [] => .error ⟨.endInObject, 0⟩
      | b :: rest =>
        if b == 0x3A then
          match readValue fuel depth rest with
          | .error e => .error e
          | .ok (v, rest) => readFields fuel depth (some (Keyed.insertEntry key v seen)) rest
        else .error ⟨.noColon, rest.length⟩

end

/-- The levels of nesting that a document may open, the last one excluded. -/
def maxDepth : Nat := 128

/-- Reads a document, the place of a fault still counted from the end. -/
def readDocument (bs : Bytes) : Except Fault Json :=
  -- No more than three of the readers are entered in turn without a byte being taken.
  match readValue (3 * bs.length + 3) maxDepth bs with
  | .error e => .error e
  | .ok (v, rest) =>
    match skipGap rest with
    | [] => .ok v
    | _ :: more => .error ⟨.trailingText, more.length⟩

def read (bs : Bytes) : Except SyntaxError Json :=
  match readDocument bs with
  | .error e => .error (e.locate bs)
  | .ok v => .ok v

end SearchGateway.Json
