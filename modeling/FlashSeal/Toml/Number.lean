/-
FlashSeal.Toml.Number — the unquoted scalars of TOML: numbers, truth values, dates and times.

A scalar is a run of characters without a break, so it is judged whole: each function here either
accepts all of its characters or none.
-/
import FlashSeal.Text.Numeral
import FlashSeal.Toml.Value

namespace FlashSeal.Toml

open Text

/-! ## Digits -/

/-- Whether a character is a digit of a base. -/
def isDigitOf (radix : Nat) (c : Char) : Bool := (digitValue? radix c).isSome

/-- The digits of a group, in which one underscore may stand between two digits. -/
def ungrouped (radix : Nat) : List Char → Option (List Char)
  | [] => none
  | [c] => if isDigitOf radix c then some [c] else none
  | c :: '_' :: cs => if isDigitOf radix c then (ungrouped radix cs).map (c :: ·) else none
  | c :: cs => if isDigitOf radix c then (ungrouped radix cs).map (c :: ·) else none

/-- The value of digits of a base. -/
def digitsValue (radix : Nat) (digits : List Char) : Nat :=
  digits.foldl (fun n c => n * radix + (digitValue? radix c).getD 0) 0

/-- The digits of a decimal without a leading zero. -/
def wholeDigits (cs : List Char) : Option (List Char) :=
  match ungrouped 10 cs with
  | some ('0' :: _ :: _) => none
  | digits => digits

/-- Splits a sign off: whether it is a minus, and what follows. -/
def signed : List Char → Bool × List Char
  | '+' :: cs => (false, cs)
  | '-' :: cs => (true, cs)
  | cs => (false, cs)

/-! ## Numbers -/

/-- The integer that these characters write, if it fits 64 bits with a sign. -/
def integer? (cs : List Char) : Option Int :=
  let inBase radix digits := (ungrouped radix digits).map fun ds => (digitsValue radix ds : Int)
  let n? : Option Int :=
    match cs with
    | '0' :: 'x' :: digits => inBase 16 digits
    | '0' :: 'o' :: digits => inBase 8 digits
    | '0' :: 'b' :: digits => inBase 2 digits
    | cs =>
      let (negative, digits) := signed cs
      (wholeDigits digits).map fun ds =>
        if negative then -(digitsValue 10 ds : Int) else digitsValue 10 ds
  n?.filter fun n => decide (-0x8000000000000000 ≤ n) && decide (n < 0x8000000000000000)

/-- The value of an exponent behind its letter. -/
def exponent? (cs : List Char) : Option Int :=
  let (negative, digits) := signed cs
  (ungrouped 10 digits).map fun ds =>
    if negative then -(digitsValue 10 ds : Int) else digitsValue 10 ds

/-- The fraction and the exponent behind the whole part of a float, of which one must stand. -/
def fractionAndExponent? (cs : List Char) : Option (List Char × Int) :=
  let marks c := c == 'e' || c == 'E'
  match cs with
  | '.' :: cs =>
    let front := cs.takeWhile fun c => !marks c
    match ungrouped 10 front, cs.dropWhile fun c => !marks c with
    | none, _ => none
    | some fraction, [] => some (fraction, 0)
    | some fraction, _ :: tail => (exponent? tail).map fun e => (fraction, e)
  | c :: tail => if marks c then (exponent? tail).map fun e => ([], e) else none
  | [] => none

/-- The float that these characters write, if it is not above all finite numbers. -/
def float? (cs : List Char) : Option Decimal.Binary64 :=
  let (negative, body) := signed cs
  match body with
  | ['i', 'n', 'f'] => some (.infinite negative)
  | ['n', 'a', 'n'] => some .nan
  | _ => do
    let isWhole c := isDigitOf 10 c || c == '_'
    let whole ← wholeDigits (body.takeWhile isWhole)
    let (fraction, exponent) ← fractionAndExponent? (body.dropWhile isWhole)
    let x := .ofDecimal negative (digitsValue 10 (whole ++ fraction)) (exponent - fraction.length)
    if x = .infinite false then none else some x

/-! ## Dates and times -/

/-- The value of two digits, if it lies between two bounds. -/
def twoDigits? (a b : Char) (least most : Nat) : Option Nat :=
  if isDigitOf 10 a && isDigitOf 10 b then
    (some (digitsValue 10 [a, b])).filter fun n => decide (least ≤ n ∧ n ≤ most)
  else none

/-- The number of days in a month of a year. -/
def daysIn (year month : Nat) : Nat :=
  if month = 2 then
    if year % 4 = 0 ∧ (year % 100 ≠ 0 ∨ year % 400 = 0) then 29 else 28
  else if month = 4 ∨ month = 6 ∨ month = 9 ∨ month = 11 then 30
  else 31

/-- What follows a date, if one begins here. -/
def afterDate? : List Char → Option (List Char)
  | y0 :: y1 :: y2 :: y3 :: '-' :: m0 :: m1 :: '-' :: d0 :: d1 :: rest => do
    if !([y0, y1, y2, y3].all (isDigitOf 10)) then none
    let month ← twoDigits? m0 m1 1 12
    let _ ← twoDigits? d0 d1 1 (daysIn (digitsValue 10 [y0, y1, y2, y3]) month)
    return rest
  | _ => none

/-- What follows a time of day, if one begins here. -/
def afterTime? : List Char → Option (List Char)
  | h0 :: h1 :: ':' :: m0 :: m1 :: ':' :: s0 :: s1 :: rest => do
    let _ ← twoDigits? h0 h1 0 23
    let _ ← twoDigits? m0 m1 0 59
    let _ ← twoDigits? s0 s1 0 60
    match rest with
    | '.' :: fraction =>
      if (fraction.takeWhile (isDigitOf 10)).isEmpty then none
      return fraction.dropWhile (isDigitOf 10)
    | rest => return rest
  | _ => none

/-- Whether these characters are an offset from universal time. -/
def isOffset : List Char → Bool
  | ['Z'] | ['z'] => true
  | [sign, h0, h1, ':', m0, m1] =>
    (sign == '+' || sign == '-') && (twoDigits? h0 h1 0 23).isSome && (twoDigits? m0 m1 0 59).isSome
  | _ => false

/-- Whether these characters are a time of day with or without an offset. -/
def isZonedTime (cs : List Char) : Bool :=
  match afterTime? cs with
  | some rest => rest.isEmpty || isOffset rest
  | none => false

/-- Whether these characters are a date. -/
def isDate (cs : List Char) : Bool := afterDate? cs == some []

/-- Whether these characters are a date, a time of day, or both with a letter between. -/
def isMoment (cs : List Char) : Bool :=
  match afterDate? cs with
  | some [] => true
  | some ('T' :: time) | some ('t' :: time) => isZonedTime time
  | _ => afterTime? cs == some []

/-! ## Any scalar -/

/-- Whether a character can stand in an unquoted scalar. -/
def isScalarChar (c : Char) : Bool :=
  c.isAlphanum || c == '+' || c == '-' || c == '_' || c == '.' || c == ':'

/-- The value that these characters write. -/
def scalar? (cs : List Char) : Option Value :=
  match cs with
  | ['t', 'r', 'u', 'e'] => some (.boolean true)
  | ['f', 'a', 'l', 's', 'e'] => some (.boolean false)
  | cs =>
    if isMoment cs then some .moment
    else ((float? cs).map Value.float).or ((integer? cs).map Value.integer)

end FlashSeal.Toml
