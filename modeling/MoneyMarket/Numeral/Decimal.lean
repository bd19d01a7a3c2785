import MoneyMarket.Numeral.Rounding
import MoneyMarket.Text.Blank
import MoneyMarket.Text.Digit

/-!
# Decimal numerals

A decimal is read exactly: sign, digits of any script with an optional point, and an optional
exponent. Blanks around the numeral and all underscores do not count. Infinity and not-a-number
have numerals of their own, in any case.
-/

namespace MoneyMarket

/-- A finite decimal is `± coefficient · 10 ^ exponent`. -/
inductive Decimal where
  | finite (negative : Bool) (coefficient : Nat) (exponent : Int)
  | infinite (negative : Bool)
  | notANumber (signalling : Bool)
  deriving DecidableEq, Repr

namespace Decimal

open MoneyMarket.Text MoneyMarket.Numeral

inductive Failure where
  /-- The text is no decimal numeral, or the value may not be computed with. -/
  | malformed
  | overflow
  | infinite
  | notANumber
  deriving DecidableEq, Repr

/-! ## Reading -/

/-- A digit of any script as its ASCII digit; other characters beyond ASCII occur in no numeral. -/
def plainChar (c : Char) : Char :=
  if c.toNat < 128 then c.toLower
  else match digitValue? c with
    | some d => Char.ofNat (48 + d)
    | none => '?'

def plainChars (s : String) : List Char :=
  ((trimWith isBlank s.toList).filter (· ≠ '_')).map plainChar

def isDigit (c : Char) : Bool := '0' ≤ c && c ≤ '9'

def digits (cs : List Char) : List Nat := cs.map (·.toNat - 48)

def exponent? : List Char → Option Int
  | [] => some 0
  | 'e' :: '-' :: ds => if ds ≠ [] ∧ ds.all isDigit then some (-digitsValue (digits ds)) else none
  | 'e' :: '+' :: ds => if ds ≠ [] ∧ ds.all isDigit then some (digitsValue (digits ds)) else none
  | 'e' :: ds => if ds ≠ [] ∧ ds.all isDigit then some (digitsValue (digits ds)) else none
  | _ => none

/-- Whole digits, an optional point and fraction digits, with at least one digit in all, and the
exponent part. -/
def unsigned? (negative : Bool) (cs : List Char) : Option Decimal :=
  let whole := cs.takeWhile isDigit
  let rest := cs.dropWhile isDigit
  let fraction := match rest with
    | '.' :: ds => ds.takeWhile isDigit
    | _ => []
  let tail := match rest with
    | '.' :: ds => ds.dropWhile isDigit
    | _ => rest
  if whole = [] ∧ fraction = [] then none
  else (exponent? tail).map fun e =>
    .finite negative (digitsValue (digits (whole ++ fraction))) (e - fraction.length)

def special? (negative : Bool) (cs : List Char) : Option Decimal :=
  match cs with
  | ['i', 'n', 'f'] => some (.infinite negative)
  | ['i', 'n', 'f', 'i', 'n', 'i', 't', 'y'] => some (.infinite negative)
  | 'n' :: 'a' :: 'n' :: ds => if ds.all isDigit then some (.notANumber false) else none
  | 's' :: 'n' :: 'a' :: 'n' :: ds => if ds.all isDigit then some (.notANumber true) else none
  | _ => none

/-- The largest exponent that a numeral may have, of its first digit. -/
def largestExponent : Int := 999999999999999999

/-- The smallest exponent that a numeral may have, of its last digit. -/
def smallestExponent : Int := -1999999999999999997

def inRange : Decimal → Bool
  | .finite _ c e => decide (e + digitCount c - 1 ≤ largestExponent ∧ smallestExponent ≤ e)
  | _ => true

def read? (s : String) : Option Decimal :=
  let (negative, cs) := match plainChars s with
    | '-' :: cs => (true, cs)
    | '+' :: cs => (false, cs)
    | cs => (false, cs)
  ((special? negative cs).or (unsigned? negative cs)).filter inRange

/-! ## Rounding to the working precision -/

/-- Products keep this many significant digits. -/
def precision : Nat := 28

/-- The largest exponent of a product's first digit. -/
def maxExponent : Int := 999999

/-- The smallest exponent of a product's last digit. -/
def minExponent : Int := -1000026

/-- The coefficient without its last `count` digits, to nearest, a half to the even neighbour. -/
def dropDigits (coefficient count : Nat) : Nat :=
  if digitCount coefficient < count then 0 else nearestEven coefficient (tenPow count)

/-- Keeps `precision` digits and, near zero, those down to `minExponent`. -/
def fit (coefficient : Nat) (exponent : Int) : Nat × Int :=
  let tooLow := (minExponent - exponent).toNat
  let tooMany := digitCount coefficient - precision
  let count := max tooLow tooMany
  if count = 0 then (coefficient, exponent) else (dropDigits coefficient count, exponent + count)

def times (d : Decimal) (n : Nat) : Except Failure Decimal :=
  match d with
  | .notANumber true => .error .malformed
  | .notANumber false => .ok (.notANumber false)
  | .infinite negative => .ok (.infinite negative)
  | .finite negative c e =>
    let (c', e') := fit (c * n) e
    if c' ≠ 0 ∧ maxExponent < e' + digitCount c' - 1 then .error .overflow
    else .ok (.finite negative c' e')

/-! ## Whole numbers -/

def wholePart (coefficient : Nat) (exponent : Int) : Nat :=
  if coefficient = 0 then 0
  else if 0 ≤ exponent then coefficient * tenPow exponent.toNat
  else if digitCount coefficient ≤ (-exponent).toNat then 0
  else coefficient / tenPow (-exponent).toNat

def truncated : Decimal → Except Failure Int
  | .notANumber _ => .error .notANumber
  | .infinite _ => .error .infinite
  | .finite negative c e => .ok (if negative then -wholePart c e else wholePart c e)

def units (places : Nat) (s : String) : Except Failure Int :=
  match read? s with
  | none => .error .malformed
  | some d => do (← d.times (tenPow places)).truncated

def wad (s : String) : Except Failure Int := units 18 s

def ray (s : String) : Except Failure Int := units 27 s

end Decimal

end MoneyMarket
