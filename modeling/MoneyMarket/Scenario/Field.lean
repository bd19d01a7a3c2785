import MoneyMarket.Fault
import MoneyMarket.FixedPoint
import MoneyMarket.Json.Reader
import MoneyMarket.Numeral.Whole
import MoneyMarket.Text.Uppercase

/-!
# Fields of a scenario

How the values of a scenario are understood: whole numbers, amounts in whole tokens, names, flags
and modes. What is missing or of the wrong kind is trouble, which ends the replay.
-/

namespace MoneyMarket.Scenario

open MoneyMarket.FixedPoint

inductive Trouble where
  | fault (cause : Fault)
  | decimal (cause : Decimal.Failure)
  | real (cause : Decimal.Failure)
  | missingField (name : String)
  | unknownMode (name : String)
  | wrongKind
  | noParts
  | notWhole
  | tooLong (digits : Nat)
  | unknownPreset (shown : String)
  | unknownStrategy (shown : String)
  | unknownOperation (shown : String)

def Trouble.message? : Trouble → Option String
  | fault cause => cause.message?
  | decimal .notANumber => some "cannot convert NaN to integer"
  | real .notANumber => some "cannot convert float NaN to integer"
  | missingField name => some name
  | unknownMode name => some name
  | tooLong digits => some (tooManyDigits ++ s!": value has {digits} digits" ++ digitsAdvice)
  | unknownPreset shown => some ("unknown reserve preset " ++ shown)
  | unknownStrategy shown => some ("unknown rate strategy " ++ shown)
  | unknownOperation shown => some ("unknown operation " ++ shown)
  | _ => none

abbrev Reading := Except Trouble

def Reading.ofFault {α : Type} (r : Except Fault α) : Reading α :=
  r.mapError fun f => .fault f.worded

def Reading.ofDecimal {α : Type} (r : Except Decimal.Failure α) : Reading α :=
  r.mapError .decimal

/-! ## Values -/

/-- A whole number: fractions are cut, flags count zero or one, and texts are read. -/
def wholeNumber : Json → Reading Int
  | .whole n => .ok n
  | .bool b => .ok (if b then 1 else 0)
  | .real x => (Binary64.truncated x).mapError .real
  | .text s => match Numeral.whole s with
    | .ok n => .ok n
    | .error .malformed => .error .notWhole
    | .error (.tooLong digits) => .error (.tooLong digits)
  | _ => .error .wrongKind

def name (v : Json) : Reading Name :=
  match v.name? with
  | some name => .ok name
  | none => .error .wrongKind

/-- The word, in any case, that asks for all there is. -/
def isEverything (v : Json) : Bool :=
  match v with
  | .text s => s.toLower == "max"
  | _ => false

def toUnits (amount : Json) (decimals : Int) : Reading Int :=
  if isEverything amount then .ok maxAmount
  else if 0 ≤ decimals then .ofDecimal (Decimal.units decimals.toNat amount.plain)
  else if (Decimal.read? amount.plain).isSome then .error .wrongKind
  else .error (.decimal .malformed)

def toWad (price : Json) : Reading Int := .ofDecimal (Decimal.wad price.plain)

def rateMode : Json → Reading RateMode
  | .text s => match Text.uppercase s with
    | "STABLE" => .ok .stable
    | "VARIABLE" => .ok .floating
    | other => .error (.unknownMode other)
  | _ => .error .noParts

/-! ## Fields and items -/

abbrev Fields := List (String × Json)

def Fields.get (fs : Fields) (name : String) : Reading Json :=
  match Entries.find? name fs with
  | some v => .ok v
  | none => .error (.missingField name)

def Fields.getOr (fs : Fields) (name : String) (default : Json) : Json :=
  (Entries.find? name fs).getD default

/-- What is listed: the items of a list, the names of an object's fields, or the characters of a
text. -/
def items : Json → Reading (List Json)
  | .list vs => .ok vs
  | .object fs => .ok (fs.map fun f => .text f.1)
  | .text s => .ok ((Text.points s).map fun n => .text (Text.ofPoints [n]))
  | _ => .error .wrongKind

end MoneyMarket.Scenario
