import MoneyMarket.Numeral.Binary64

/-!
# The fewest digits that read back

A binary64 number is written with the fewest decimal digits that are read back as the same number;
of several such numerals the nearest is taken, and an exact tie goes to the even digit.
-/

namespace MoneyMarket.Binary64

open MoneyMarket.Numeral

def onGrid (quarters : Nat) (exponent grid : Int) : Nat × Nat :=
  (quarters * twoPow (exponent - 2).toNat * tenPow (-grid).toNat,
    twoPow (2 - exponent).toNat * tenPow grid.toNat)

/-- The reals that round to a number, as distances from zero in quarters of its last place. Below a
power of two the places are half as wide. The ends belong to an even significand. -/
structure Interval where
  low : Nat
  high : Nat
  closed : Bool

def Interval.of (significand : Nat) (exponent : Int) : Interval where
  low :=
    if significand = twoPow 52 ∧ -1074 < exponent then 4 * significand - 1
    else 4 * significand - 2
  high := 4 * significand + 2
  closed := significand % 2 = 0

def Interval.holds (i : Interval) (exponent grid : Int) (digits : Nat) : Bool :=
  let (lowNum, den) := onGrid i.low exponent grid
  let (highNum, _) := onGrid i.high exponent grid
  let scaled := digits * den
  if i.closed then lowNum ≤ scaled && scaled ≤ highNum else lowNum < scaled && scaled < highNum

/-- The place of the first digit: the value is below `10 ^ top` and not below `10 ^ (top - 1)`. -/
def topPlace (significand : Nat) (exponent : Int) : Int :=
  let (num, den) := onGrid (4 * significand) exponent 0
  let guess : Int := (digitCount num : Int) - digitCount den
  if num * tenPow (-guess).toNat ≥ den * tenPow guess.toNat then guess + 1 else guess

def candidate? (significand : Nat) (exponent grid : Int) : Option Nat :=
  let (num, den) := onGrid (4 * significand) exponent grid
  let below := num / den
  let i := Interval.of significand exponent
  let nearest := nearestEven num den
  let other := if nearest = below then below + 1 else below
  if i.holds exponent grid nearest then some nearest
  else if i.holds exponent grid other then some other
  else none

def shortestDigits (significand : Nat) (exponent : Int) : Nat × Int :=
  let top := topPlace significand exponent
  let hit := (List.range 17).findSome? fun n : Nat =>
    let grid : Int := top - (n + 1)
    (candidate? significand exponent grid).map fun d => (d, grid)
  hit.getD (significand, exponent)

/-! ## Writing -/

def dropZeros (ds : List Char) : List Char := (ds.reverse.dropWhile (· = '0')).reverse

/-- How numbers are written: positionally when the point falls from three places before the first
digit to sixteen after it, with a fraction in any case, and else with an exponent of two digits or
more. -/
def magnitudeText (significand : Nat) (exponent : Int) : String :=
  if significand = 0 then "0.0"
  else
    let (digits, grid) := shortestDigits significand exponent
    let all := (toString digits).toList
    let ds := dropZeros all
    let point : Int := all.length + grid
    if -3 ≤ point ∧ point ≤ 16 then
      if point ≤ 0 then
        String.ofList (['0', '.'] ++ List.replicate (-point).toNat '0' ++ ds)
      else
        let whole := ds.take point.toNat
        let zeros := List.replicate (point.toNat - ds.length) '0'
        let fraction := ds.drop point.toNat
        String.ofList (whole ++ zeros ++ ['.'] ++ if fraction = [] then ['0'] else fraction)
    else
      let shift := point - 1
      let mantissa := ds.take 1 ++ if ds.length ≤ 1 then [] else '.' :: ds.drop 1
      let sign := if shift < 0 then '-' else '+'
      let magnitude := (toString shift.natAbs).toList
      let padding := if magnitude.length < 2 then ['0'] else []
      String.ofList (mantissa ++ ['e', sign] ++ padding ++ magnitude)

def text (x : Float) : String :=
  match parts x with
  | .notANumber => "nan"
  | .infinite negative => if negative then "-inf" else "inf"
  | .finite negative m e => (if negative then "-" else "") ++ magnitudeText m e

end MoneyMarket.Binary64
