import MoneyMarket.Numeral.Binary64

/-!
# Exact comparison and floor division

Every finite binary64 number is a whole multiple of the smallest positive one. In these units
numbers are compared with whole numbers, cut down to a whole number and divided with remainder,
without rounding.
-/

namespace MoneyMarket.Binary64

open MoneyMarket.Numeral

/-- One, in multiples of the smallest positive number. -/
def unitsOfOne : Nat := twoPow 1074

def magnitudeUnits (significand : Nat) (exponent : Int) : Nat :=
  significand * twoPow (exponent + 1074).toNat

def signed (negative : Bool) (n : Nat) : Int := if negative then -n else n

def isNegative (x : Float) : Bool := twoPow 63 ≤ x.toBits.toNat

/-! ## Comparison with whole numbers -/

def isBelow (x : Float) (n : Int) : Bool :=
  match parts x with
  | .notANumber => false
  | .infinite negative => negative
  | .finite negative m e => signed negative (magnitudeUnits m e) < n * unitsOfOne

def isAbove (x : Float) (n : Int) : Bool :=
  match parts x with
  | .notANumber => false
  | .infinite negative => !negative
  | .finite negative m e => n * unitsOfOne < signed negative (magnitudeUnits m e)

def whole? (x : Float) : Option Int :=
  match parts x with
  | .finite negative m e =>
    let units := magnitudeUnits m e
    if units % unitsOfOne = 0 then some (signed negative (units / unitsOfOne)) else none
  | _ => none

/-! ## Division -/

def ofWhole? (n : Int) : Option Float := quotient? n 1

def floor (x : Float) : Float :=
  match parts x with
  | .finite negative m e =>
    if 0 ≤ e then x
    else (ofWhole? (signed negative (magnitudeUnits m e) / unitsOfOne)).getD x
  | _ => x

/-- What is left of `x` when as many `y` as fit are taken off toward zero. It has the sign of `x`
and is exact. -/
def remainder (x y : Float) : Float :=
  match parts x, parts y with
  | .finite negative m e, .finite _ n f =>
    let left := magnitudeUnits m e % magnitudeUnits n f
    ((nearestBits? left unitsOfOne).map (ofBits negative)).getD notANumber
  | .finite _ _ _, .infinite _ => x
  | _, _ => notANumber

def zeroLike (x : Float) : Float := ofBits (isNegative x) 0

/-- The floor of a quotient, for `y` other than zero: the remainder is brought to the sign of `y`
and taken off first, and the quotient of what is left goes to the nearest whole number. -/
def floorQuotient (x y : Float) : Float :=
  let left := remainder x y
  let toward := (x - left) / y
  let quotient :=
    if left == 0.0 || decide (left < 0.0) == decide (y < 0.0) then toward else toward - 1.0
  if quotient == 0.0 then zeroLike (x / y)
  else
    let below := floor quotient
    if 0.5 < quotient - below then below + 1.0 else below

end MoneyMarket.Binary64
