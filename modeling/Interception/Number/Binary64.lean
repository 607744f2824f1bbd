/-!
# Double precision numbers

A finite number is `significand * 2 ^ exponent` with its sign. The significand
has at most 53 bits, and it has all of them unless the exponent is the least
one. Text is read exactly and rounded once, to the nearest number and halfway
to the even one.
-/

set_option autoImplicit false

namespace Interception.Number

inductive Binary64 where
  | nan
  | infinite (negative : Bool)
  | finite (negative : Bool) (significand : Nat) (exponent : Int)
  deriving DecidableEq, Inhabited

namespace Binary64

def bits : Nat := 53
def leastExponent : Int := -1074
def greatestExponent : Int := 971

/-- The numerator and the denominator of `n * 2 ^ e`. -/
def scaled (n : Nat) (e : Int) : Nat × Nat :=
  (n * Nat.pow 2 e.toNat, Nat.pow 2 (-e).toNat)

/-- The quotient, rounded to the nearest integer and halfway to the even one. -/
def roundQuotient (num den : Nat) : Nat :=
  let q := num / den
  let r := num % den
  if 2 * r < den ∨ (2 * r = den ∧ q % 2 = 0) then q else q + 1

/-- The exponent under which `num / den` has a significand of 53 bits, if that is
not below the least one. -/
def exponentOf (num den : Nat) : Int :=
  let guess : Int := (num.log2 : Int) - (den.log2 : Int) - 52
  let (n, d) := (num * Nat.pow 2 (-guess).toNat, den * Nat.pow 2 guess.toNat)
  let fitted := if n < d * Nat.pow 2 52 then guess - 1 else guess
  max fitted leastExponent

/-- The nearest number to `num / den`. -/
def ofRatio (negative : Bool) (num den : Nat) : Binary64 :=
  if num = 0 then .finite negative 0 leastExponent
  else
    let e := exponentOf num den
    let m := roundQuotient (num * Nat.pow 2 (-e).toNat) (den * Nat.pow 2 e.toNat)
    let (m, e) := if m = Nat.pow 2 bits then (Nat.pow 2 (bits - 1), e + 1) else (m, e)
    if greatestExponent < e then .infinite negative else .finite negative m e

/-- The nearest number to `digits * 10 ^ power`. Beyond the range on either side
the power itself is not worked out. -/
def ofDecimal (negative : Bool) (digits : Nat) (power : Int) : Binary64 :=
  let top : Int := power + ((Nat.toDigits 10 digits).length : Int)
  if digits = 0 then .finite negative 0 leastExponent
  else if 310 < top then .infinite negative
  else if top < -330 then .finite negative 0 leastExponent
  else ofRatio negative (digits * Nat.pow 10 power.toNat) (Nat.pow 10 (-power).toNat)

def natOfDigits (digits : List Char) : Nat :=
  digits.foldl (fun n c => n * 10 + (c.toNat - '0'.toNat)) 0

/-- Splits off an optional sign. -/
def signOf : List Char → Bool × List Char
  | '-' :: rest => (true, rest)
  | '+' :: rest => (false, rest)
  | rest => (false, rest)

/-- The power that follows the digits: nothing, or `e` with a signed number. -/
def readPower? : List Char → Option Int
  | [] => some 0
  | c :: rest =>
    let (negative, digits) := signOf rest
    if (c = 'e' ∨ c = 'E') ∧ ¬ digits.isEmpty ∧ digits.all Char.isDigit then
      let n : Int := natOfDigits digits
      some (if negative then -n else n)
    else none

/-- Digits with at most one point among them, then an optional power. -/
def readFinite? (negative : Bool) (cs : List Char) : Option Binary64 :=
  let whole := cs.takeWhile Char.isDigit
  let afterWhole := cs.dropWhile Char.isDigit
  let afterPoint := match afterWhole with
    | '.' :: rest => rest
    | _ => []
  let fraction := afterPoint.takeWhile Char.isDigit
  let rest := match afterWhole with
    | '.' :: tail => tail.dropWhile Char.isDigit
    | tail => tail
  if whole.isEmpty && fraction.isEmpty then none
  else (readPower? rest).map fun power =>
    ofDecimal negative (natOfDigits (whole ++ fraction)) (power - fraction.length)

/-- Reads a decimal number, or one of the words for infinity and for no number in
any case of letters. -/
def read? (s : String) : Option Binary64 :=
  let (negative, cs) := signOf s.toList
  match String.ofList (cs.map Char.toLower) with
  | "inf" | "infinity" => some (.infinite negative)
  | "nan" => some .nan
  | _ => readFinite? negative cs

def isZero : Binary64 → Bool
  | .finite _ m _ => m == 0
  | _ => false

def isFinite : Binary64 → Bool
  | .finite .. => true
  | _ => false

end Binary64

end Interception.Number
