import SearchGateway.Json.Basic
import SearchGateway.Json.Fault

/-!
# Numbers in JSON

The digits of a number are folded into a significand of 64 bits; a number that has no fraction, no
exponent and at most 64 bits is kept as an integer, and every other one is rounded.
-/

namespace SearchGateway.Json

/-- The value of a decimal digit. -/
def digitOf? (b : UInt8) : Option Nat :=
  if 0x30 ≤ b ∧ b ≤ 0x39 then some (b.toNat - 0x30) else none

/-- A significand below `2 ^ 64` and the decimal exponent of the digits it leaves out. -/
structure Significand where
  value : Nat
  full : Bool
  exponent : Int

/-- Takes up a digit before the point: it counts as a place once the significand is full. -/
def Significand.whole (s : Significand) (d : Nat) : Significand :=
  if s.full ∨ s.value * 10 + d ≥ Nat.pow 2 64 then
    { s with full := true, exponent := s.exponent + 1 }
  else { s with value := s.value * 10 + d }

/-- Takes up a digit after the point: it is dropped once the significand is full. -/
def Significand.part (s : Significand) (d : Nat) : Significand :=
  if s.full ∨ s.value * 10 + d ≥ Nat.pow 2 64 then { s with full := true }
  else { s with value := s.value * 10 + d, exponent := s.exponent - 1 }

/-- Folds the digits in front into a significand. -/
def readDigits (step : Significand → Nat → Significand) (s : Significand) :
    Bytes → Significand × Bytes
  | [] => (s, [])
  | b :: bs =>
    match digitOf? b with
    | some d => readDigits step (step s d) bs
    | none => (s, b :: bs)

def maxExponent : Nat := Nat.pow 2 31 - 1

/-- Reads the digits of an exponent; nothing if it grows too large, with the text after the digit
where it does. -/
def readExponentDigits (e : Nat) : Bytes → Option Nat × Bytes
  | [] => (some e, [])
  | b :: bs =>
    match digitOf? b with
    | some d => if e * 10 + d > maxExponent then (none, bs) else readExponentDigits (e * 10 + d) bs
    | none => (some e, b :: bs)

/-- The number for a significand and an exponent. -/
def finishFloat (negative : Bool) (s : Significand) (e : Int) (bs : Bytes) :
    Except Fault (Json × Bytes) :=
  match Binary64.ofDecimal? negative s.value e with
  | some x => .ok (.float x, bs)
  | none => .error ⟨.numberTooLarge, bs.length⟩

/-- Reads an exponent after its mark. -/
def readExponent (negative : Bool) (s : Significand) (bs : Bytes) : Except Fault (Json × Bytes) :=
  let (down, bs) :=
    match bs with
    | 0x2B :: bs => (false, bs)
    | 0x2D :: bs => (true, bs)
    | bs => (false, bs)
  match bs with
  | [] => .error ⟨.endInValue, 0⟩
  | b :: bs =>
    match digitOf? b with
    | none => .error ⟨.badNumber, bs.length⟩
    | some d =>
      match readExponentDigits d bs with
      | (some e, bs) =>
        finishFloat negative s (if down then s.exponent - e else s.exponent + e) bs
      | (none, bs) =>
        -- Beyond the bound there is no number, unless it is zero or next to it.
        if s.value ≠ 0 ∧ !down then .error ⟨.numberTooLarge, bs.length⟩
        else .ok (.float (.zero negative), bs.dropWhile fun b => (digitOf? b).isSome)

/-- Reads what follows the digits after the point. -/
def readAfterPart (negative : Bool) (s : Significand) (bs : Bytes) :
    Except Fault (Json × Bytes) :=
  match bs with
  | b :: rest =>
    if b == 0x65 || b == 0x45 then readExponent negative s rest
    else finishFloat negative s s.exponent bs
  | [] => finishFloat negative s s.exponent bs

/-- The integer of a significand that holds all its digits; nothing if it is the negative zero or
below `-2 ^ 63`. -/
def exactInt? (negative : Bool) (n : Nat) : Option Int :=
  if negative then if 0 < n ∧ n ≤ Nat.pow 2 63 then some (-(n : Int)) else none
  else some n

/-- Reads what follows the digits before the point. -/
def readAfterWhole (negative : Bool) (s : Significand) (bs : Bytes) :
    Except Fault (Json × Bytes) :=
  match bs with
  | 0x2E :: rest =>
    -- A smaller digit may still fit where one before the point did not.
    match readDigits .part { s with full := false } rest with
    | (t, after) =>
      if after.length = rest.length then
        .error (if after.isEmpty then ⟨.endInValue, 0⟩ else ⟨.badNumber, after.length - 1⟩)
      else readAfterPart negative t after
  | _ =>
    match bs with
    | b :: rest =>
      if b == 0x65 || b == 0x45 then readExponent negative s rest else integer
    | [] => integer
where
  integer : Except Fault (Json × Bytes) :=
    match if s.full then none else exactInt? negative s.value with
    | some n => .ok (.int n, bs)
    | none => finishFloat negative s s.exponent bs

/-- Reads a number after its sign. -/
def readNumber (negative : Bool) (bs : Bytes) : Except Fault (Json × Bytes) :=
  match bs with
  | [] => .error ⟨.endInValue, 0⟩
  | b :: rest =>
    match digitOf? b with
    | none => .error ⟨.badNumber, rest.length⟩
    -- A zero in front is all there is before the point.
    | some 0 =>
      match rest with
      | c :: more =>
        if (digitOf? c).isSome then .error ⟨.badNumber, more.length⟩
        else readAfterWhole negative ⟨0, false, 0⟩ rest
      | [] => readAfterWhole negative ⟨0, false, 0⟩ rest
    | some d =>
      let (s, rest) := readDigits .whole ⟨d, false, 0⟩ rest
      readAfterWhole negative s rest

end SearchGateway.Json
