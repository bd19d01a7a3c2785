/-!
# Texts by their code points

A text from outside is a sequence of code points, among which may be surrogates without a partner,
and a string holds none. A surrogate is kept as two characters, a mark and a stand-in, and the mark
itself as the mark twice; every other code point is kept as its character. Texts are put together as
their strings are.
-/

namespace MoneyMarket.Text

def isSurrogate (n : Nat) : Bool := 0xd800 ≤ n && n < 0xe000

def markPoint : Nat := 0x10ffff

def mark : Char := Char.ofNat markPoint

/-- How far the stand-ins are from their surrogates: they are the first private characters. -/
def standInDistance : Nat := 0x800

def charsOf (n : Nat) : List Char :=
  if isSurrogate n then [mark, Char.ofNat (n + standInDistance)]
  else if n = markPoint then [mark, mark]
  else [Char.ofNat n]

def markedPoint (c : Char) : Nat := if c = mark then markPoint else c.toNat - standInDistance

def pointsOf : List Char → List Nat
  | [] => []
  | c :: rest =>
    if c = mark then match rest with
      | [] => [markPoint]
      | d :: rest => markedPoint d :: pointsOf rest
    else c.toNat :: pointsOf rest

def ofPoints (points : List Nat) : String := String.ofList (points.flatMap charsOf)

def points (s : String) : List Nat := pointsOf s.toList

end MoneyMarket.Text
