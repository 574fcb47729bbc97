import SearchGateway.Json.Binary64

/-!
# Shortest decimal text of a binary64 value

`digits` finds the fewest decimal digits that read back as the value, and of those the nearest.
`text` lays them out: positional notation for magnitudes from `1e-5` up to `1e16`, and otherwise
an exponent with its sign.
-/

namespace SearchGateway.Binary64

/-- The number of decimal places before the point of `num / den`, which is not zero: the `p` with
`10 ^ (p - 1) ≤ num / den < 10 ^ p`. -/
def places (num den : Nat) : Int :=
  if den ≤ num then (Nat.toDigits 10 (num / den)).length
  else
    let l : Nat := (Nat.toDigits 10 (den / num)).length
    -- The inverse of a power of ten has one digit more than its neighbour above.
    if den ≤ num * Nat.pow 10 (l - 1) then 2 - (l : Int) else 1 - (l : Int)

/-- The quotient in units of `10 ^ e`, as numerator and denominator. -/
def inUnits (num den : Nat) (e : Int) : Nat × Nat :=
  (num * Nat.pow 10 (-e).toNat, den * Nat.pow 10 e.toNat)

/-- Whether `n` units of `10 ^ e` round to the value with this mantissa and exponent. The interval
that rounds to it includes its ends if the mantissa is even; below a power of two it is half as
wide. -/
def roundsTo (mantissa : Nat) (exponent : Int) (n : Nat) (e : Int) : Bool :=
  -- Counted in quarters of the last place, the ends of the interval are whole.
  let quarter := Nat.pow 2 (2 - exponent).toNat
  let unit := Nat.pow 2 (exponent - 2).toNat
  let candidate := n * Nat.pow 10 e.toNat * quarter
  let scale := Nat.pow 10 (-e).toNat * unit
  let low := (4 * mantissa - (if mantissa = Nat.pow 2 52 ∧ exponent > -1074 then 1 else 2)) * scale
  let high := (4 * mantissa + 2) * scale
  if mantissa % 2 = 0 then low ≤ candidate && candidate ≤ high
  else low < candidate && candidate < high

/-- Of the two neighbours of the value among the numbers with `count` digits, the one that reads
back; if both do, the nearer, and the even one if they are equally near. -/
def candidate? (x : Binary64) (count : Nat) : Option (Nat × Int) :=
  let (num, den) := x.ratio
  let e := places num den - count
  let (n, d) := inUnits num den e
  let low := n / d
  let fits (k : Nat) : Bool := roundsTo x.mantissa x.exponent k e
  match fits low, fits (low + 1) with
  | true, false => some (low, e)
  | false, true => some (low + 1, e)
  | true, true =>
    let r := 2 * (n % d)
    some (if r < d ∨ (r = d ∧ low % 2 = 0) then low else low + 1, e)
  | false, false => none

/-- The digits and the place of the point before them: the value is `0.digits · 10 ^ point`. -/
def digits (x : Binary64) : List Char × Int :=
  if x.mantissa = 0 then (['0'], 1)
  else
    -- Seventeen digits tell a value from all others.
    let (n, e) := ((List.range 17).findSome? fun i => x.candidate? (i + 1)).getD (0, 0)
    let all := Nat.toDigits 10 n
    let kept := (all.reverse.dropWhile (· == '0')).reverse
    (kept, e + all.length)

/-- An exponent mark with its sign. -/
def exponentText (e : Int) : List Char :=
  'e' :: (if e < 0 then '-' else '+') :: Nat.toDigits 10 e.natAbs

/-- The digits laid out around the point. -/
def layout (digits : List Char) (point : Int) : List Char :=
  if 0 < point ∧ point ≤ 16 then
    let p := point.toNat
    let whole := digits.take p ++ List.replicate (p - digits.length) '0'
    let part := digits.drop p
    whole ++ '.' :: (if part.isEmpty then ['0'] else part)
  else if -5 < point ∧ point ≤ 0 then
    '0' :: '.' :: (List.replicate (-point).toNat '0' ++ digits)
  else
    match digits with
    | [d] => d :: exponentText (point - 1)
    | d :: rest => d :: '.' :: (rest ++ exponentText (point - 1))
    | [] => []

/-- The text of a value. -/
def text (x : Binary64) : List Char :=
  let (ds, point) := x.digits
  (if x.negative then ['-'] else []) ++ layout ds point

end SearchGateway.Binary64
