/-!
# Blanks around a text

Which characters count as blank space, and texts without the blanks around them.
-/

namespace MoneyMarket.Text

/-- The blanks that separate words: tab to carriage return, the four information separators, the
space, and the spaces and line ends beyond ASCII. -/
def isBlank (c : Char) : Bool :=
  let n := c.toNat
  (9 ≤ n && n ≤ 13) || (0x1c ≤ n && n ≤ 0x20) || n == 0x85 || n == 0xa0 || n == 0x1680 ||
    (0x2000 ≤ n && n ≤ 0x200a) || n == 0x2028 || n == 0x2029 || n == 0x202f || n == 0x205f ||
    n == 0x3000

def trimWith (blank : Char → Bool) (cs : List Char) : List Char :=
  ((cs.dropWhile blank).reverse.dropWhile blank).reverse

def trimmed (s : String) : String := String.ofList (trimWith isBlank s.toList)

end MoneyMarket.Text
