import MoneyMarket.Json
import MoneyMarket.Numeral.Whole

/-!
# Reading JSON documents

A repeated field keeps its first place and its last value. The numbers `NaN`, `Infinity` and
`-Infinity` are read as well. Nothing but blanks may stand around the document. Reading stops at the
first thing that is wrong: a text that is no document, a bracket too deep inside others, or a whole
number with too many digits.
-/

namespace MoneyMarket.Json

inductive ReadFailure where
  | malformed
  | tooDeep
  | tooLong (digits : Nat)
  deriving DecidableEq, Repr

abbrev Rest := List Char

def skipBlanks : Rest → Rest :=
  List.dropWhile fun c => c == ' ' || c == '\t' || c == '\n' || c == '\r'

/-! ## Texts -/

def hexValue? (c : Char) : Option Nat :=
  if '0' ≤ c ∧ c ≤ '9' then some (c.toNat - 48)
  else if 'a' ≤ c ∧ c ≤ 'f' then some (c.toNat - 87)
  else if 'A' ≤ c ∧ c ≤ 'F' then some (c.toNat - 55)
  else none

def hexValue4? (a b c d : Char) : Option Nat := do
  return (((← hexValue? a) * 16 + (← hexValue? b)) * 16 + (← hexValue? c)) * 16 + (← hexValue? d)

def escapeValue? (c : Char) : Option Nat :=
  if c = Text.doubleQuote ∨ c = Text.backslash ∨ c = '/' then some c.toNat
  else match c with
    | 'b' => some 8
    | 'f' => some 12
    | 'n' => some 10
    | 'r' => some 13
    | 't' => some 9
    | _ => none

/-- The code units up to the closing quote, last one first. -/
def readUnits (done : List Nat) : Rest → Option (List Nat × Rest)
  | [] => none
  | '\x22' :: rest => some (done, rest)
  | '\x5c' :: 'u' :: a :: b :: c :: d :: rest =>
    match hexValue4? a b c d with
    | some n => readUnits (n :: done) rest
    | none => none
  | '\x5c' :: e :: rest =>
    match escapeValue? e with
    | some n => readUnits (n :: done) rest
    | none => none
  | c :: rest => if c.toNat < 0x20 then none else readUnits (c.toNat :: done) rest

def joinUnits : List Nat → List Nat
  | [] => []
  | [n] => [n]
  | high :: low :: rest =>
    if 0xd800 ≤ high ∧ high < 0xdc00 ∧ 0xdc00 ≤ low ∧ low < 0xe000 then
      (0x10000 + (high - 0xd800) * 0x400 + (low - 0xdc00)) :: joinUnits rest
    else high :: joinUnits (low :: rest)

def readText (cs : Rest) : Except ReadFailure (String × Rest) :=
  match readUnits [] cs with
  | some (units, rest) => .ok (Text.ofPoints (joinUnits units.reverse), rest)
  | none => .error .malformed

/-! ## Numbers -/

def readFraction : Rest → List Char × Rest
  | '.' :: cs =>
    let ds := cs.takeWhile Decimal.isDigit
    if ds = [] then ([], '.' :: cs) else (ds, cs.dropWhile Decimal.isDigit)
  | cs => ([], cs)

def readScaleDigits (negative : Bool) (whole cs : Rest) : Option Int × Rest :=
  let ds := cs.takeWhile Decimal.isDigit
  let n : Int := Numeral.digitsValue (Decimal.digits ds)
  if ds = [] then (none, whole)
  else (some (if negative then -n else n), cs.dropWhile Decimal.isDigit)

def readScale (cs : Rest) : Option Int × Rest :=
  match cs with
  | e :: '-' :: ds => if e = 'e' ∨ e = 'E' then readScaleDigits true cs ds else (none, cs)
  | e :: '+' :: ds => if e = 'e' ∨ e = 'E' then readScaleDigits false cs ds else (none, cs)
  | e :: ds => if e = 'e' ∨ e = 'E' then readScaleDigits false cs ds else (none, cs)
  | [] => (none, cs)

/-- A number behind its sign. A zero ends the whole digits. -/
def readNumber (negative : Bool) (cs : Rest) : Except ReadFailure (Json × Rest) :=
  let ds := match cs with
    | '0' :: _ => ['0']
    | _ => cs.takeWhile Decimal.isDigit
  if ds = [] then .error .malformed
  else
    let (fraction, afterFraction) := readFraction (cs.drop ds.length)
    let (scale, rest) := readScale afterFraction
    let n := Numeral.digitsValue (Decimal.digits (ds ++ fraction))
    if fraction = [] ∧ scale = none then
      if Numeral.maxDigits < ds.length then .error (.tooLong ds.length)
      else .ok (.whole (if negative then -n else n), rest)
    else
      let d := Decimal.finite negative n (scale.getD 0 - fraction.length)
      .ok (.real (Binary64.ofDecimal d), rest)

def readPlain (cs : Rest) : Except ReadFailure (Json × Rest) :=
  match cs with
  | 'n' :: 'u' :: 'l' :: 'l' :: rest => .ok (.null, rest)
  | 't' :: 'r' :: 'u' :: 'e' :: rest => .ok (.bool true, rest)
  | 'f' :: 'a' :: 'l' :: 's' :: 'e' :: rest => .ok (.bool false, rest)
  | 'N' :: 'a' :: 'N' :: rest => .ok (.real Binary64.notANumber, rest)
  | 'I' :: 'n' :: 'f' :: 'i' :: 'n' :: 'i' :: 't' :: 'y' :: rest =>
    .ok (.real (Binary64.infinity false), rest)
  | '-' :: 'I' :: 'n' :: 'f' :: 'i' :: 'n' :: 'i' :: 't' :: 'y' :: rest =>
    .ok (.real (Binary64.infinity true), rest)
  | '-' :: rest => readNumber true rest
  | _ => readNumber false cs

/-! ## Documents -/

/-- How many brackets may be open at once. -/
def maxDepth : Nat := 990

mutual

/-- One value inside as many brackets as there is room left for. Every call spends fuel, and every
call but the first has read a character. -/
def readValue : Nat → Nat → Rest → Except ReadFailure (Json × Rest)
  | 0, _, _ => .error .malformed
  | fuel + 1, room, cs =>
    match cs, room with
    | '\x22' :: rest, _ => (readText rest).map fun (s, rest) => (.text s, rest)
    | '[' :: _, 0 => .error .tooDeep
    | '[' :: rest, room + 1 =>
      match skipBlanks rest with
      | ']' :: rest => .ok (.list [], rest)
      | rest => readItems fuel room [] rest
    | '\x7b' :: _, 0 => .error .tooDeep
    | '\x7b' :: rest, room + 1 =>
      match skipBlanks rest with
      | '\x7d' :: rest => .ok (.object [], rest)
      | rest => readFields fuel room [] rest
    | _, _ => readPlain cs

def readItems : Nat → Nat → List Json → Rest → Except ReadFailure (Json × Rest)
  | 0, _, _, _ => .error .malformed
  | fuel + 1, room, done, cs =>
    match readValue fuel room cs with
    | .error e => .error e
    | .ok (v, rest) =>
      match skipBlanks rest with
      | ',' :: rest => readItems fuel room (v :: done) (skipBlanks rest)
      | ']' :: rest => .ok (.list (v :: done).reverse, rest)
      | _ => .error .malformed

def readFields : Nat → Nat → List (String × Json) → Rest → Except ReadFailure (Json × Rest)
  | fuel + 1, room, done, '\x22' :: cs =>
    match readText cs with
    | .error e => .error e
    | .ok (name, rest) =>
      match skipBlanks rest with
      | ':' :: rest =>
        match readValue fuel room (skipBlanks rest) with
        | .error e => .error e
        | .ok (v, rest) =>
          let done := Entries.put name v done
          match skipBlanks rest with
          | ',' :: rest => readFields fuel room done (skipBlanks rest)
          | '\x7d' :: rest => .ok (.object done, rest)
          | _ => .error .malformed
      | _ => .error .malformed
  | _, _, _, _ => .error .malformed

end

def read (s : String) : Except ReadFailure Json := do
  let cs := s.toList
  let (v, rest) ← readValue (cs.length + 1) maxDepth (skipBlanks cs)
  if skipBlanks rest = [] then return v else throw .malformed

end MoneyMarket.Json
