import MoneyMarket.Numeral.Exact
import MoneyMarket.Numeral.Shortest
import MoneyMarket.Numeral.Whole

/-!
# Quantities

A figure is whole, and exact, wherever the market's arithmetic stays within whole numbers. A token
with a negative number of decimals has a fraction as its unit; what is counted in it is a binary64
number. The two kinds are compared by their exact values, and not-a-number compares with nothing.
-/

namespace MoneyMarket

inductive Quantity where
  | whole (n : Int)
  | real (x : Float)
  deriving DecidableEq, Repr

namespace Quantity

instance : Inhabited Quantity := ⟨whole 0⟩

def text : Quantity → String
  | whole n => toString n
  | real x => Binary64.text x

instance : ToString Quantity := ⟨text⟩

/-! ## Order -/

def lt : Quantity → Quantity → Bool
  | whole m, whole n => m < n
  | whole m, real y => Binary64.isAbove y m
  | real x, whole n => Binary64.isBelow x n
  | real x, real y => x < y

def same : Quantity → Quantity → Bool
  | whole m, whole n => m = n
  | whole m, real y => Binary64.whole? y = some m
  | real x, whole n => Binary64.whole? x = some n
  | real x, real y => x == y

def le (a b : Quantity) : Bool := a.lt b || a.same b

def isZero (a : Quantity) : Bool := a.same (whole 0)

def isPositive (a : Quantity) : Bool := (whole 0).lt a

/-- The smaller one; the first unless the second is smaller. -/
def least (a b : Quantity) : Quantity := if b.lt a then b else a

@[simp] theorem lt_whole (m n : Int) : lt (whole m) (whole n) = decide (m < n) := rfl

@[simp] theorem same_whole (m n : Int) : same (whole m) (whole n) = decide (m = n) := rfl

@[simp] theorem le_whole (m n : Int) : le (whole m) (whole n) = decide (m ≤ n) := by
  simp only [le, lt_whole, same_whole]
  by_cases h : m ≤ n
  · rcases Int.lt_or_eq_of_le h with h' | h' <;> simp [h, h']
  · have h₁ : ¬ m < n := by omega
    have h₂ : ¬ m = n := by omega
    simp [h, h₁, h₂]

@[simp] theorem isZero_whole (n : Int) : isZero (whole n) = decide (n = 0) := rfl

@[simp] theorem isPositive_whole (n : Int) : isPositive (whole n) = decide (0 < n) := rfl

theorem least_whole (m n : Int) : least (whole m) (whole n) = whole (min m n) := by
  simp only [least, lt_whole, decide_eq_true_eq]
  split <;> congr 1 <;> omega

def isTooLong : Quantity → Bool
  | whole n => Numeral.isTooLong n
  | real _ => false

end Quantity

end MoneyMarket
