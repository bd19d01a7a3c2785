import MoneyMarket.Numeral.Decimal

/-!
# Binary64 numbers and exact values

A finite binary64 number is `± significand · 2 ^ exponent` with a significand below `2 ^ 53` and an
exponent of at least `-1074`. Quotients and decimals are rounded to the nearest such number, a tie
to the even significand.
-/

namespace MoneyMarket.Binary64

open MoneyMarket.Numeral

inductive Parts where
  | finite (negative : Bool) (significand : Nat) (exponent : Int)
  | infinite (negative : Bool)
  | notANumber

def parts (x : Float) : Parts :=
  let bits := x.toBits.toNat
  let negative := twoPow 63 ≤ bits
  let biased : Nat := bits / twoPow 52 % twoPow 11
  let fraction := bits % twoPow 52
  if biased = 2047 then if fraction = 0 then .infinite negative else .notANumber
  else if biased = 0 then .finite negative fraction (-1074)
  else .finite negative (twoPow 52 + fraction) ((biased : Int) - 1075)

def signBit (negative : Bool) : Nat := if negative then twoPow 63 else 0

def infinityBits : Nat := 2047 * twoPow 52

def ofBits (negative : Bool) (bits : Nat) : Float :=
  Float.ofBits (UInt64.ofNat (signBit negative + bits))

def infinity (negative : Bool) : Float := ofBits negative infinityBits

def notANumber : Float := ofBits false (infinityBits + twoPow 51)

/-- `num / (den · 2 ^ exponent)` to the nearest whole number. -/
def significandAt (num den : Nat) (exponent : Int) : Nat :=
  nearestEven (num * twoPow (-exponent).toNat) (den * twoPow exponent.toNat)

/-- The exponent that gives the quotient a significand of 53 bits, or the least one. -/
def exponentFor (num den : Nat) : Int :=
  let guess : Int := (num.log2 : Int) - den.log2 - 53
  let wide := num * twoPow (-guess).toNat / (den * twoPow guess.toNat) ≥ twoPow 53
  max (if wide then guess + 1 else guess) (-1074)

/-- The bits of the binary64 number nearest to `num / den`, or `none` beyond the largest. Counting
the bits from zero makes the significand's carry run into the exponent. -/
def nearestBits? (num den : Nat) : Option Nat :=
  if num = 0 then some 0
  else
    let e := exponentFor num den
    let bits := (e + 1074).toNat * twoPow 52 + significandAt num den e
    if bits < infinityBits then some bits else none

def quotient? (num : Int) (den : Nat) : Option Float :=
  (nearestBits? num.natAbs den).map (ofBits (num < 0))

/-- The nearest binary64 number; infinity beyond the largest. -/
def ofDecimal : Decimal → Float
  | .notANumber _ => notANumber
  | .infinite negative => infinity negative
  | .finite negative c e =>
    let top := e + digitCount c
    if c = 0 ∨ top < -400 then ofBits negative 0
    else if 400 < top then infinity negative
    else match nearestBits? (c * tenPow e.toNat) (tenPow (-e).toNat) with
      | some bits => ofBits negative bits
      | none => infinity negative

def truncated (x : Float) : Except Decimal.Failure Int :=
  match parts x with
  | .notANumber => .error .notANumber
  | .infinite _ => .error .infinite
  | .finite negative m e =>
    let whole := m * twoPow e.toNat / twoPow (-e).toNat
    .ok (if negative then -whole else whole)

end MoneyMarket.Binary64
