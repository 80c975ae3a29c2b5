/-!
# Signed 64-bit numbers in decimal

A number is read digit by digit from the left: an optional sign, and then digits only. The first
character that is no digit, or that takes the number out of range, decides the outcome.
-/

namespace OperatorGrammar.Signed

def least : Int := -0x8000000000000000

def greatest : Int := 0x7fffffffffffffff

def InRange (n : Int) : Prop := least ≤ n ∧ n ≤ greatest

instance (n : Int) : Decidable (InRange n) := inferInstanceAs (Decidable (_ ∧ _))

/-- A result of exact arithmetic, if it is in range. -/
def check (n : Int) : Option Int := if InRange n then some n else none

inductive ReadError where
  | empty
  | invalidDigit
  | tooLarge
  | tooSmall
deriving DecidableEq

def ReadError.message : ReadError → String
  | empty => "cannot parse integer from empty string"
  | invalidDigit => "invalid digit found in string"
  | tooLarge => "number too large to fit in target type"
  | tooSmall => "number too small to fit in target type"

/-- Reads the digits behind `value`, which the sign is part of already. -/
def readDigits (negative : Bool) (value : Int) : List Char → Except ReadError Int
  | [] => .ok value
  | c :: rest =>
    if c.isDigit then
      let digit : Int := c.toNat - 0x30
      let value := if negative then 10 * value - digit else 10 * value + digit
      if InRange value then readDigits negative value rest
      else .error (if negative then .tooSmall else .tooLarge)
    else .error .invalidDigit

def read : List Char → Except ReadError Int
  | [] => .error .empty
  | ['+'] => .error .invalidDigit
  | ['-'] => .error .invalidDigit
  | '+' :: digits => readDigits false 0 digits
  | '-' :: digits => readDigits true 0 digits
  | digits => readDigits false 0 digits

end OperatorGrammar.Signed
