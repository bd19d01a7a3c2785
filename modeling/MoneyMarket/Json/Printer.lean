import MoneyMarket.Json
import MoneyMarket.Numeral.Whole

/-!
# Printing JSON documents

One field or item on a line, indented by two blanks a level, in ASCII.
-/

namespace MoneyMarket.Json

def escapedUnit (n : Nat) : List Char := [Text.backslash, 'u'] ++ Text.hexText 4 n

def printedPoint (n : Nat) : List Char :=
  if n = Text.doubleQuote.toNat ∨ n = Text.backslash.toNat then [Text.backslash, Char.ofNat n]
  else if n = 8 then [Text.backslash, 'b']
  else if n = 9 then [Text.backslash, 't']
  else if n = 10 then [Text.backslash, 'n']
  else if n = 12 then [Text.backslash, 'f']
  else if n = 13 then [Text.backslash, 'r']
  else if 0x20 ≤ n ∧ n < 0x7f then [Char.ofNat n]
  else if n < 0x10000 then escapedUnit n
  else escapedUnit (0xd800 + (n - 0x10000) / 0x400) ++ escapedUnit (0xdc00 + (n - 0x10000) % 0x400)

def printedText (s : String) : String :=
  String.ofList (Text.doubleQuote :: (Text.points s).flatMap printedPoint ++ [Text.doubleQuote])

def printedReal (x : Float) : String :=
  match Binary64.parts x with
  | .notANumber => "NaN"
  | .infinite negative => if negative then "-Infinity" else "Infinity"
  | .finite _ _ _ => Binary64.text x

def newline (level : Nat) : String := "\n" ++ String.ofList (List.replicate (2 * level) ' ')

def bracketed (opening closing : String) (level : Nat) (lines : List String) : String :=
  if lines.isEmpty then opening ++ closing
  else opening ++ newline (level + 1) ++ ("," ++ newline (level + 1)).intercalate lines ++
    newline level ++ closing

mutual

def printedAt (level : Nat) : Json → String
  | null => "null"
  | bool b => if b then "true" else "false"
  | whole n => toString n
  | real x => printedReal x
  | text s => printedText s
  | list items => bracketed "[" "]" level (printedItems (level + 1) items)
  | object fields => bracketed "\x7b" "\x7d" level (printedFields (level + 1) fields)

def printedItems (level : Nat) : List Json → List String
  | [] => []
  | v :: rest => printedAt level v :: printedItems level rest

def printedFields (level : Nat) : List (String × Json) → List String
  | [] => []
  | (k, v) :: rest => (printedText k ++ ": " ++ printedAt level v) :: printedFields level rest

end

def printed (v : Json) : String := printedAt 0 v

/-! ## What can be printed -/

mutual

def isTooLong : Json → Bool
  | whole n => Numeral.isTooLong n
  | list items => anyTooLong items
  | object fields => anyFieldTooLong fields
  | _ => false

def anyTooLong : List Json → Bool
  | [] => false
  | v :: rest => isTooLong v || anyTooLong rest

def anyFieldTooLong : List (String × Json) → Bool
  | [] => false
  | (_, v) :: rest => isTooLong v || anyFieldTooLong rest

end

end MoneyMarket.Json
