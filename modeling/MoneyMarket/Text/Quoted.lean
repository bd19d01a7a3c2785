import MoneyMarket.Text.Points
import MoneyMarket.Text.Printable

/-!
# Quoted texts

How a text is shown in a message: in single quotes, or in double quotes when it holds a single
quote and no double one. The quote, the backslash and every character that is not printable are
escaped, and so is a surrogate without a partner.
-/

namespace MoneyMarket.Text

def hexDigit (n : Nat) : Char := Char.ofNat (if n < 10 then 48 + n else 87 + n)

def hexText : Nat → Nat → List Char
  | 0, _ => []
  | width + 1, n => hexText width (n / 16) ++ [hexDigit (n % 16)]

def backslash : Char := '\x5c'
def singleQuote : Char := '\x27'
def doubleQuote : Char := '\x22'

def escaped (quote c : Char) : List Char :=
  if c = quote ∨ c = backslash then [backslash, c]
  else if c = '\t' then [backslash, 't']
  else if c = '\n' then [backslash, 'n']
  else if c = '\r' then [backslash, 'r']
  else if isPrintable c then [c]
  else if c.toNat < 0x100 then [backslash, 'x'] ++ hexText 2 c.toNat
  else if c.toNat < 0x10000 then [backslash, 'u'] ++ hexText 4 c.toNat
  else [backslash, 'U'] ++ hexText 8 c.toNat

def escapedPoint (quote : Char) (n : Nat) : List Char :=
  if isSurrogate n then [backslash, 'u'] ++ hexText 4 n else escaped quote (Char.ofNat n)

def quoteFor (points : List Nat) : Char :=
  if singleQuote.toNat ∈ points ∧ doubleQuote.toNat ∉ points then doubleQuote else singleQuote

def quoted (s : String) : String :=
  let quote := quoteFor (points s)
  String.ofList (quote :: (points s).flatMap (escapedPoint quote) ++ [quote])

end MoneyMarket.Text
