import MoneyMarket.Numeral.Rounding
import MoneyMarket.Text.Blank
import MoneyMarket.Text.Digit

/-!
# Reading whole numbers

A whole number is written as an optional sign and decimal digits of any script, where a single
underscore may stand between two digits. Blanks around it do not count. Whole numbers are neither
read nor written with more than `maxDigits` digits.
-/

namespace MoneyMarket.Numeral

open MoneyMarket.Text

/-- The longest whole number that is read or written, in digits. -/
def maxDigits : Nat := 4300

def isTooLong (n : Int) : Bool := tenPow maxDigits ≤ n.natAbs

inductive WholeFailure where
  | malformed
  | tooLong (digits : Nat)
  deriving DecidableEq, Repr

/-- The blanks that may stand around a whole number: all but the information separators. -/
def isOuterBlank (c : Char) : Bool := isBlank c && !(0x1c ≤ c.toNat && c.toNat < 0x20)

def isDigit (c : Char) : Bool := (digitValue? c).isSome

/-- The digits at the beginning, first digit first, and what comes after them; `none` if there are
none or if an underscore does not stand between two of them. -/
def digitRun? : List Char → Option (List Nat × List Char)
  | [] => none
  | c :: rest => match digitValue? c, rest with
    | none, _ => none
    | some d, [] => some ([d], [])
    | some d, '_' :: more => (digitRun? more).map fun (ds, tail) => (d :: ds, tail)
    | some d, next :: more =>
      if isDigit next then (digitRun? (next :: more)).map fun (ds, tail) => (d :: ds, tail)
      else some ([d], next :: more)

/-- The value of a number without a sign. Its length counts before what comes after it. -/
def unsignedWhole (cs : List Char) : Except WholeFailure Nat :=
  match digitRun? cs with
  | none => .error .malformed
  | some (ds, tail) =>
    if maxDigits < ds.length then .error (.tooLong ds.length)
    else if tail = [] then .ok (digitsValue ds)
    else .error .malformed

def whole (s : String) : Except WholeFailure Int :=
  match trimWith isOuterBlank s.toList with
  | '-' :: cs => (unsignedWhole cs).map fun n => -n
  | '+' :: cs => (unsignedWhole cs).map fun n => n
  | cs => (unsignedWhole cs).map fun n => n

end MoneyMarket.Numeral
