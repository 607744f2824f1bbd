import Interception.Number.Binary64

/-!
# Shortest decimal text

Of the decimal numbers that read back as a given double precision number, the
one with the fewest digits is written, and of those the nearest. Notation is
positional throughout: there is no power of ten, and a whole number has no point.
-/

set_option autoImplicit false

namespace Interception.Number

/-- The number `digits * 10 ^ power`. -/
structure Decimal where
  digits : Nat
  power : Int

/-- The ratio `num / den`; comparisons multiply out. -/
structure Ratio where
  num : Nat
  den : Nat

namespace Ratio

def lt (a b : Ratio) : Bool := a.num * b.den < b.num * a.den
def le (a b : Ratio) : Bool := a.num * b.den ≤ b.num * a.den

/-- The difference, zero when `b` is the larger. -/
def sub (a b : Ratio) : Ratio := ⟨a.num * b.den - b.num * a.den, a.den * b.den⟩

end Ratio

def Decimal.ratio (d : Decimal) : Ratio :=
  ⟨d.digits * Nat.pow 10 d.power.toNat, Nat.pow 10 (-d.power).toNat⟩

/-- The numbers between `low` and `high` round to the number at hand; the ends do
when `closed` holds. -/
structure RoundingInterval where
  low : Ratio
  value : Ratio
  high : Ratio
  closed : Bool

namespace RoundingInterval

/-- The interval of `m * 2 ^ e`, whose lower half is shorter below a power of two. -/
def of (m : Nat) (e : Int) : RoundingInterval :=
  let quarters (n : Nat) : Ratio :=
    let (num, den) := Binary64.scaled n (e - 2)
    ⟨num, den⟩
  let below := if m = Nat.pow 2 (Binary64.bits - 1) ∧ Binary64.leastExponent < e then 1 else 2
  ⟨quarters (4 * m - below), quarters (4 * m), quarters (4 * m + 2), m % 2 == 0⟩

def holds (i : RoundingInterval) (d : Decimal) : Bool :=
  let r := d.ratio
  if i.closed then i.low.le r && r.le i.high else i.low.lt r && r.lt i.high

/-- How many digits stand before the point; below one, less the zeros behind it. -/
def magnitude (v : Ratio) : Int :=
  if v.den ≤ v.num then ((Nat.toDigits 10 (v.num / v.den)).length : Int)
  else
    let d := (Nat.toDigits 10 (v.den / v.num)).length
    let j := if v.den = v.num * Nat.pow 10 (d - 1) then d - 1 else d
    1 - (j : Int)

/-- The two neighbours of the value among the decimals of `count` digits, nearest
first and from halfway the larger first, as far as they lie in the interval. -/
def neighbour? (i : RoundingInterval) (count : Nat) : Option Decimal :=
  let power := magnitude i.value - count
  let under := i.value.num * Nat.pow 10 (-power).toNat / (i.value.den * Nat.pow 10 power.toNat)
  let down : Decimal := ⟨under, power⟩
  let up : Decimal := ⟨under + 1, power⟩
  let downIsNearer := (i.value.sub down.ratio).lt (up.ratio.sub i.value)
  match i.holds down, i.holds up with
  | true, true => some (if downIsNearer then down else up)
  | true, false => some down
  | false, true => some up
  | false, false => none

/-- Seventeen digits always suffice. -/
def shortest (i : RoundingInterval) : Decimal :=
  ((List.range 17).findSome? fun n => i.neighbour? (n + 1)).getD ⟨0, 0⟩

end RoundingInterval

/-- Positional notation: zeros fill the places that the digits leave open. -/
def Decimal.positional (d : Decimal) : List Char :=
  let digits := Nat.toDigits 10 d.digits
  if 0 ≤ d.power then digits ++ List.replicate d.power.toNat '0'
  else
    let places := (-d.power).toNat
    if places < digits.length then
      digits.take (digits.length - places) ++ '.' :: digits.drop (digits.length - places)
    else ['0', '.'] ++ List.replicate (places - digits.length) '0' ++ digits

/-- Drops zeros behind the last digit that counts, as long as they stand behind
the point. -/
def Decimal.trimmed (d : Decimal) : Decimal :=
  if d.digits % 10 = 0 ∧ d.power < 0 ∧ 0 < d.digits then
    Decimal.trimmed ⟨d.digits / 10, d.power + 1⟩
  else d
termination_by d.digits
decreasing_by exact Nat.div_lt_self (by omega) (by omega)

namespace Binary64

def magnitudeText (m : Nat) (e : Int) : List Char :=
  if m = 0 then ['0'] else (RoundingInterval.of m e).shortest.trimmed.positional

/-- The sign is written for every negative number, zero included. -/
def text : Binary64 → String
  | .nan => "NaN"
  | .infinite negative => if negative then "-inf" else "inf"
  | .finite negative m e =>
    String.ofList ((if negative then ['-'] else []) ++ magnitudeText m e)

/-- As `text`, with `.0` behind a whole number. -/
def textWithPoint (x : Binary64) : String :=
  let plain := x.text
  if x.isFinite && !plain.toList.contains '.' then plain ++ ".0" else plain

end Binary64

end Interception.Number
