/-!
# Written integers

An optional sign and digits of some base, read as a signed number of 64 bits.
Reading goes from left to right and stops at the first fault: a character that
is no digit, or the digit that leaves the range.
-/

set_option autoImplicit false

namespace Interception.Number

inductive IntegerFault where
  | empty
  | invalidDigit
  | tooLarge
  | tooSmall
  deriving DecidableEq

def IntegerFault.message : IntegerFault → String
  | empty => "cannot parse integer from empty string"
  | invalidDigit => "invalid digit found in string"
  | tooLarge => "number too large to fit in target type"
  | tooSmall => "number too small to fit in target type"

def minSigned : Int := -9223372036854775808
def maxSigned : Int := 9223372036854775807

def digitValue? (base : Nat) (c : Char) : Option Nat :=
  let value? :=
    if c.isDigit then some (c.toNat - '0'.toNat)
    else if 'a' ≤ c ∧ c ≤ 'z' then some (c.toNat - 'a'.toNat + 10)
    else if 'A' ≤ c ∧ c ≤ 'Z' then some (c.toNat - 'A'.toNat + 10)
    else none
  value?.filter (· < base)

/-- Takes in one more digit, on the side of zero that the sign asks for. -/
def takeDigit (base : Nat) (negative : Bool) (soFar : Int) (c : Char) :
    Except IntegerFault Int :=
  match digitValue? base c with
  | none => .error .invalidDigit
  | some d =>
    let next := if negative then soFar * base - d else soFar * base + d
    if next < minSigned then .error .tooSmall
    else if maxSigned < next then .error .tooLarge
    else .ok next

def readDigits (base : Nat) (negative : Bool) (digits : List Char) : Except IntegerFault Int :=
  if digits.isEmpty then .error .invalidDigit else digits.foldlM (takeDigit base negative) 0

def readSigned (base : Nat) : List Char → Except IntegerFault Int
  | [] => .error .empty
  | '-' :: digits => readDigits base true digits
  | '+' :: digits => readDigits base false digits
  | digits => readDigits base false digits

def readDecimal (s : String) : Except IntegerFault Int :=
  readSigned 10 s.toList

end Interception.Number
