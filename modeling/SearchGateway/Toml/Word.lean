import SearchGateway.Json.Binary64
import SearchGateway.Text.Numeral
import SearchGateway.Text.Split
import SearchGateway.Toml.Basic

/-!
# Numbers, moments and truth values

These values are words without quotes. Digits may be grouped by single underscores, and integers
have 64 bits.
-/

namespace SearchGateway.Toml

/-- Whether a character may stand in a word. -/
def isWordChar (c : Char) : Bool :=
  c.isAlphanum || c == '_' || c == '-' || c == '+' || c == '.' || c == ':'

/-- The digits of a numeral with the underscores between them taken out. -/
def ungroup? (digit? : Char → Option Nat) (s : List Char) : Option (List Char) :=
  let groups := Text.split (· == '_') s
  if groups.all fun group => !group.isEmpty && group.all fun c => (digit? c).isSome then
    some groups.flatten
  else none

/-- The value of grouped digits. -/
def grouped? (base : Nat) (digit? : Char → Option Nat) (s : List Char) : Option Nat :=
  (ungroup? digit? s).bind (Text.digits? base digit?)

/-- The sign of a numeral, whether it is a minus, and the rest. -/
def cutSign : List Char → Bool × List Char
  | '-' :: rest => (true, rest)
  | '+' :: rest => (false, rest)
  | rest => (false, rest)

/-- Whether grouped decimal digits begin with a zero that is not the only digit. -/
def hasLeadingZero : List Char → Bool
  | '0' :: _ :: _ => true
  | _ => false

/-- The digits of a base below ten. -/
def digitBelow? (base : Nat) (c : Char) : Option Nat :=
  (Text.decimal? c).filter (· < base)

/-- A number that fits into 64 bits. -/
def fit? (n : Int) : Option Int :=
  if -Int.pow 2 63 ≤ n ∧ n < Int.pow 2 63 then some n else none

/-- The integer that a word spells. -/
def integer? : List Char → Option Int
  | '0' :: 'x' :: digits => (grouped? 16 Text.hexadecimal? digits).bind (fit? ·)
  | '0' :: 'o' :: digits => (grouped? 8 (digitBelow? 8) digits).bind (fit? ·)
  | '0' :: 'b' :: digits => (grouped? 2 (digitBelow? 2) digits).bind (fit? ·)
  | word =>
    let (negative, digits) := cutSign word
    if hasLeadingZero digits then none
    else (grouped? 10 Text.decimal? digits).bind fun n => fit? (if negative then -n else n)

/-! ## Fractions -/

/-- The parts of a decimal fraction: its digits before and after the point, and its exponent. -/
structure Decimal where
  negative : Bool
  whole : List Char
  places : List Char
  exponent : Int

/-- The exponent that follows the letter. -/
def exponent? (s : List Char) : Option Int :=
  let (negative, digits) := cutSign s
  (grouped? 10 Text.decimal? digits).map fun n => if negative then -n else n

/-- The parts of a word that spells a fraction, which has a point, an exponent or both. -/
def decimal? (word : List Char) : Option Decimal := do
  let isLetter (c : Char) : Bool := c == 'e' || c == 'E'
  let (negative, rest) := cutSign word
  let mantissa := rest.takeWhile (!isLetter ·)
  let exponent ← match rest.dropWhile (!isLetter ·) with
    | [] => some 0
    | _ :: digits => exponent? digits
  let whole ← ungroup? Text.decimal? (mantissa.takeWhile (· != '.'))
  if hasLeadingZero whole then none
  match mantissa.dropWhile (· != '.') with
  | [] =>
    -- Without a point and an exponent the word is an integer.
    if mantissa.length = rest.length then none else some { negative, whole, places := [], exponent }
  | _ :: digits =>
    let places ← ungroup? Text.decimal? digits
    some { negative, whole, places, exponent }

/-- More decimal places than any binary64 value has before or after its point. -/
def farPlaces : Int := 400

/-- The value of a fraction, or nothing if it is too large. -/
def Decimal.value? (d : Decimal) : Option Binary64 :=
  let digits := (d.whole ++ d.places).dropWhile (· == '0')
  let shift := d.exponent - d.places.length
  let significand := (Text.digits? 10 Text.decimal? digits).getD 0
  -- The place of the first digit decides first, so that no huge power is computed.
  if significand = 0 ∨ digits.length + shift < -farPlaces then some (.zero d.negative)
  else if farPlaces < digits.length + shift then none
  else Binary64.ofRatio? d.negative (significand * Nat.pow 10 shift.toNat)
    (Nat.pow 10 (-shift).toNat)

/-- The words for values that are no numbers or beyond all numbers. -/
def specialWords : List String := ["inf", "+inf", "-inf", "nan", "+nan", "-nan"]

/-- Whether a word spells a fraction; one that is too large has to be negative. -/
def isFraction (word : List Char) : Bool :=
  specialWords.contains (String.ofList word) ||
    match decimal? word with
    | some d => d.negative || d.value?.isSome
    | none => false

/-! ## Moments -/

/-- The number that exactly `n` digits spell, and the rest. -/
def digitRun? (n : Nat) (s : List Char) : Option (Nat × List Char) :=
  if (s.take n).length = n then
    (Text.digits? 10 Text.decimal? (s.take n)).map fun value => (value, s.drop n)
  else none

/-- The rest after a character. -/
def after? (c : Char) : List Char → Option (List Char)
  | d :: rest => if c = d then some rest else none
  | [] => none

def daysIn (year month : Nat) : Nat :=
  if month = 2 then
    if year % 4 = 0 ∧ (year % 100 ≠ 0 ∨ year % 400 = 0) then 29 else 28
  else if month = 4 ∨ month = 6 ∨ month = 9 ∨ month = 11 then 30
  else 31

def afterDate? (s : List Char) : Option (List Char) := do
  let (year, s) ← digitRun? 4 s
  let (month, s) ← digitRun? 2 (← after? '-' s)
  let (day, s) ← digitRun? 2 (← after? '-' s)
  if 1 ≤ month ∧ month ≤ 12 ∧ 1 ≤ day ∧ day ≤ daysIn year month then some s else none

def afterMinute? (s : List Char) : Option (List Char) := do
  let (hour, s) ← digitRun? 2 s
  let (minute, s) ← digitRun? 2 (← after? ':' s)
  if hour ≤ 23 ∧ minute ≤ 59 then some s else none

/-- The rest after a time of day, which has seconds and may have a fraction of a second. -/
def afterTime? (s : List Char) : Option (List Char) := do
  let (second, s) ← digitRun? 2 (← after? ':' (← afterMinute? s))
  -- A leap second has the number 60.
  if 60 < second then none
  match s with
  | '.' :: places =>
    let rest := places.dropWhile fun c => (Text.decimal? c).isSome
    if rest.length = places.length then none else some rest
  | _ => some s

/-- Whether a text is the distance from universal time. -/
def isOffset (s : List Char) : Bool :=
  match s with
  | [c] => c == 'Z' || c == 'z'
  | c :: rest => (c == '+' || c == '-') && afterMinute? rest == some []
  | [] => false

/-- Whether a text is a date, a time of day, or both with or without an offset. -/
def isMoment (s : List Char) : Bool :=
  match afterDate? s with
  | some [] => true
  | some (c :: rest) =>
    (c == 'T' || c == 't' || c == ' ') &&
      match afterTime? rest with
      | some offset => offset.isEmpty || isOffset offset
      | none => false
  | none => afterTime? s == some []

/-! ## Words -/

def Value.ofWord? (word : List Char) : Option Value :=
  if word = "true".toList then some (.truth true)
  else if word = "false".toList then some (.truth false)
  -- A date begins like an integer does.
  else if isMoment word then some (.moment (String.ofList word))
  else
    match integer? word with
    | some n => some (.integer n)
    | none => if isFraction word then some (.fraction (String.ofList word)) else none

/-- The word in front, with the time of day that may follow a date after a space, and the rest. -/
def cutWord (cs : List Char) : List Char × List Char :=
  let word := cs.takeWhile isWordChar
  let rest := cs.dropWhile isWordChar
  match rest with
  | ' ' :: more =>
    let time := more.takeWhile isWordChar
    if isMoment word && isMoment (word ++ ' ' :: time) then
      (word ++ ' ' :: time, more.dropWhile isWordChar)
    else (word, rest)
  | _ => (word, rest)

def readWord? (cs : List Char) : Option (Value × List Char) :=
  let (word, rest) := cutWord cs
  (Value.ofWord? word).map ((·, rest))

end SearchGateway.Toml
