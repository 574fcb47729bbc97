/-!
# Finite binary64 values

A value is `± mantissa · 2 ^ exponent` with a mantissa below `2 ^ 53`. Arithmetic is exact on
quotients of natural numbers and rounds once, to the nearest value, ties to the even mantissa.
-/

namespace SearchGateway

/-- A finite value of the IEEE 754 format binary64. -/
structure Binary64 where
  negative : Bool
  mantissa : Nat
  exponent : Int
deriving DecidableEq, Repr

namespace Binary64

def zero (negative : Bool) : Binary64 := ⟨negative, 0, -1074⟩

instance : Inhabited Binary64 := ⟨zero false⟩

/-- The quotient `num / (den · 2 ^ e)` as numerator and denominator. -/
def scaled (num den : Nat) (e : Int) : Nat × Nat :=
  (num * Nat.pow 2 (-e).toNat, den * Nat.pow 2 e.toNat)

/-- The quotient rounded to a natural number, a half to the even neighbour. -/
def roundHalfEven (num den : Nat) : Nat :=
  let q := num / den
  let r := num % den
  if 2 * r > den ∨ (2 * r = den ∧ q % 2 = 1) then q + 1 else q

/-- The value nearest to `num / den`, or nothing if it is too large. -/
def ofRatio? (negative : Bool) (num den : Nat) : Option Binary64 :=
  if num = 0 then some (zero negative)
  else
    -- The quotient has 53 or 54 bits then, or fewer for a subnormal value.
    let guess : Int := (Nat.log2 num : Int) - (Nat.log2 den : Int) - 53
    let e := max guess (-1074)
    let e :=
      if (scaled num den e).1 / (scaled num den e).2 ≥ Nat.pow 2 53 then e + 1 else e
    let m := roundHalfEven (scaled num den e).1 (scaled num den e).2
    -- Rounding up may carry into another bit.
    let (m, e) := if m = Nat.pow 2 53 then (Nat.pow 2 52, e + 1) else (m, e)
    if e > 971 then none else some ⟨negative, m, e⟩

/-- The value nearest to a natural number. -/
def ofNat? (negative : Bool) (n : Nat) : Option Binary64 :=
  ofRatio? negative n 1

/-- The magnitude as numerator and denominator. -/
def ratio (x : Binary64) : Nat × Nat :=
  (x.mantissa * Nat.pow 2 x.exponent.toNat, Nat.pow 2 (-x.exponent).toNat)

/-- The rounded product, or nothing if it is too large. -/
def mul? (x y : Binary64) : Option Binary64 :=
  ofRatio? (x.negative != y.negative) (x.ratio.1 * y.ratio.1) (x.ratio.2 * y.ratio.2)

/-- The rounded quotient, or nothing if it is too large. -/
def div? (x y : Binary64) : Option Binary64 :=
  ofRatio? (x.negative != y.negative) (x.ratio.1 * y.ratio.2) (x.ratio.2 * y.ratio.1)

def tenPower (k : Nat) : Binary64 :=
  (ofNat? false (Nat.pow 10 k)).getD default

/-- Divides `steps` times by `d`, stopping at zero. -/
def divRepeatedly? (x d : Binary64) : Nat → Option Binary64
  | 0 => some x
  | steps + 1 =>
    if x.mantissa = 0 then some x
    else (x.div? d).bind fun y => divRepeatedly? y d steps

def maxTen : Nat := 308

/-- Multiplies by `10 ^ e` in steps of at most `maxTen` decimal places, each of them rounded. -/
def scaleByTen? (x : Binary64) (e : Int) : Option Binary64 :=
  let n := e.natAbs
  if n ≤ maxTen then
    if 0 ≤ e then x.mul? (tenPower n) else x.div? (tenPower n)
  else if x.mantissa = 0 then some x
  else if 0 ≤ e then none
  else
    let steps := (n - 1) / maxTen
    (divRepeatedly? x (tenPower maxTen) steps).bind fun y =>
      y.div? (tenPower (n - steps * maxTen))

/-- The value of a decimal numeral `± significand · 10 ^ e`, or nothing if it is too large. The
significand is rounded before it is scaled. -/
def ofDecimal? (negative : Bool) (significand : Nat) (e : Int) : Option Binary64 := do
  let x ← ofNat? false significand
  let y ← x.scaleByTen? e
  some { y with negative }

end Binary64

end SearchGateway
