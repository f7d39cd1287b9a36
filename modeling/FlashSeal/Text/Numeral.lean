/-
FlashSeal.Text.Numeral — reading an unsigned number that must stay below a bound.

A numeral is an optional plus sign and one digit or more.  Digits are read from the left, and the
first that is none, or that lifts the value to the bound, decides what is wrong.
-/

namespace FlashSeal.Text

/-- Why a text is no numeral below the bound. -/
inductive NumeralError
  | empty
  /-- A character is not a digit of the base. -/
  | badDigit
  /-- The value reaches the bound. -/
  | tooLarge
  deriving DecidableEq, Repr

/-- The wording of a numeral's fault. -/
def NumeralError.message : NumeralError → String
  | empty => "cannot parse integer from empty string"
  | badDigit => "invalid digit found in string"
  | tooLarge => "number too large to fit in target type"

/-- The value of an ASCII digit or letter in a base. -/
def digitValue? (radix : Nat) (c : Char) : Option Nat :=
  let value? :=
    if '0' ≤ c ∧ c ≤ '9' then some (c.toNat - '0'.toNat)
    else if 'a' ≤ c ∧ c ≤ 'z' then some (c.toNat - 'a'.toNat + 10)
    else if 'A' ≤ c ∧ c ≤ 'Z' then some (c.toNat - 'A'.toNat + 10)
    else none
  value?.filter (· < radix)

/-- Reads digits behind those that gave `value`. -/
def readDigits (radix bound : Nat) (value : Nat) : List Char → Except NumeralError Nat
  | [] => .ok value
  | c :: cs =>
    match digitValue? radix c with
    | none => .error .badDigit
    | some d =>
      if value * radix + d < bound then readDigits radix bound (value * radix + d) cs
      else .error .tooLarge

/-- Reads a numeral below `bound`. -/
def readNumeral (radix bound : Nat) : List Char → Except NumeralError Nat
  | [] => .error .empty
  | ['+'] => .error .badDigit
  | '+' :: digits => readDigits radix bound 0 digits
  | digits => readDigits radix bound 0 digits

end FlashSeal.Text
