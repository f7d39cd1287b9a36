/-
FlashSeal.Decimal.Binary64 — decimal fractions as 64-bit binary numbers, and their shortest text.

`ofDecimal` rounds a decimal to the nearest number m · 2^q with a 53-bit m, a tie to the even m.
`text` prints the fewest digits that round back to the same number, always positionally and always
with a point.  All arithmetic is exact, on natural numbers.
-/
import FlashSeal.Text.Column

namespace FlashSeal.Decimal

/-- A 64-bit binary number. -/
inductive Binary64
  /-- The number m · 2^q, negated or not. -/
  | finite (negative : Bool) (m : Nat) (q : Int)
  /-- A number above all others, negated or not. -/
  | infinite (negative : Bool)
  | nan
  deriving DecidableEq, Repr

namespace Binary64

/-- The least exponent of a finite number. -/
def leastExponent : Int := -1074

/-- The greatest exponent of a finite number. -/
def greatestExponent : Int := 971

/-- The least m that fills its 53 bits. -/
def leastFull : Nat := 0x10000000000000

/-- The whole number nearest to a quotient, a tie to the even one. -/
def roundedQuotient (num den : Nat) : Nat :=
  let floor := num / den
  let twice := 2 * (num % den)
  if twice < den ∨ (twice = den ∧ floor % 2 = 0) then floor else floor + 1

/-- A quotient times 2^-q, as a quotient. -/
def scaledDown (num den : Nat) (q : Int) : Nat × Nat :=
  (num <<< (-q).toNat, den <<< q.toNat)

/-- The number nearest to a positive quotient. -/
def ofQuotient (negative : Bool) (num den : Nat) : Binary64 :=
  let estimate : Int := (num.log2 : Int) - den.log2 - 52
  let (n, d) := scaledDown num den estimate
  let q := max leastExponent (if n / d < leastFull then estimate - 1 else estimate)
  let (n, d) := scaledDown num den q
  let m := roundedQuotient n d
  let (m, q) := if m = 2 * leastFull then (leastFull, q + 1) else (m, q)
  if greatestExponent < q then infinite negative else finite negative m q

/-- The number nearest to digits · 10^exponent. -/
def ofDecimal (negative : Bool) (digits : Nat) (exponent : Int) : Binary64 :=
  let magnitude := exponent + (Nat.toDigits 10 digits).length
  if digits = 0 ∨ magnitude < -330 then finite negative 0 leastExponent
  else if 310 < magnitude then infinite negative
  else ofQuotient negative (digits * Nat.pow 10 exponent.toNat) (Nat.pow 10 (-exponent).toNat)

/-! ## Shortest text -/

/-- The numbers between two bounds over one denominator, with or without the bounds. -/
structure Interval where
  low : Nat
  high : Nat
  den : Nat
  closed : Bool

/-- Whether digits · 10^unit lies in an interval. -/
def Interval.holds (i : Interval) (digits : Nat) (unit : Int) : Bool :=
  let x := digits * Nat.pow 10 unit.toNat * i.den
  let scale := Nat.pow 10 (-unit).toNat
  if i.closed then i.low * scale ≤ x && x ≤ i.high * scale
  else i.low * scale < x && x < i.high * scale

/-- Looks for the decimal nearest to num / den in an interval, first in front of 10^unit and then
with up to `more` digits more.  Of two that are as near, the upper one is taken. -/
def shortestFrom (num : Nat) (i : Interval) : Nat → Int → Nat × Int
  | 0, unit => (num * Nat.pow 10 (-unit).toNat / (i.den * Nat.pow 10 unit.toNat), unit)
  | more + 1, unit =>
    let n := num * Nat.pow 10 (-unit).toNat
    let d := i.den * Nat.pow 10 unit.toNat
    let below := n / d
    match i.holds below unit, i.holds (below + 1) unit with
    | true, true => (if 2 * (n % d) < d then below else below + 1, unit)
    | true, false => (below, unit)
    | false, true => (below + 1, unit)
    | false, false => shortestFrom num i more (unit - 1)

/-- The least p, counted up from `guess`, such that num / den is below 10^p. -/
def decimalPlace (num den : Nat) : Nat → Int → Int
  | 0, guess => guess
  | fuel + 1, guess =>
    if num * Nat.pow 10 (-guess).toNat < den * Nat.pow 10 guess.toNat then guess
    else decimalPlace num den fuel (guess + 1)

/-- Moves the zeroes at the end of digits into their unit. -/
def withoutZeroes : Nat → Nat → Int → Nat × Int
  | 0, digits, unit => (digits, unit)
  | fuel + 1, digits, unit =>
    if digits % 10 = 0 then withoutZeroes fuel (digits / 10) (unit + 1) else (digits, unit)

/-- The fewest digits, with their unit, that round back to m · 2^q. -/
def shortest (m : Nat) (q : Int) : Nat × Int :=
  let factor := 1 <<< (q - 2).toNat
  let den := 1 <<< (2 - q).toNat
  let num := 4 * m * factor
  let gap := if m = leastFull ∧ leastExponent < q then 1 else 2
  let i : Interval := ⟨(4 * m - gap) * factor, (4 * m + 2) * factor, den, m % 2 = 0⟩
  let (digits, unit) := shortestFrom num i 17 (decimalPlace num den 700 (-330) - 1)
  withoutZeroes 20 digits unit

/-- Digits in front of 10^unit, written positionally. -/
def positional (digits : Nat) (unit : Int) : List Char :=
  let ds := Nat.toDigits 10 digits
  if 0 ≤ unit then ds ++ List.replicate unit.toNat '0' ++ ['.', '0']
  else
    let places := (-unit).toNat
    let ds := ds.leftpad (places + 1) '0'
    ds.take (ds.length - places) ++ '.' :: ds.drop (ds.length - places)

/-- The number's text. -/
def text : Binary64 → String
  | nan => "NaN"
  | infinite negative => if negative then "-inf" else "inf"
  | finite negative m q =>
    let body := if m = 0 then ['0', '.', '0'] else (fun (d, u) => positional d u) (shortest m q)
    String.ofList (if negative then '-' :: body else body)

end Binary64

end FlashSeal.Decimal
