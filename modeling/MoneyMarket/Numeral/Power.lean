/-!
# Powers of ten and of two
-/

namespace MoneyMarket.Numeral

def tenPow (n : Nat) : Nat := Nat.pow 10 n

def twoPow (n : Nat) : Nat := Nat.pow 2 n

theorem tenPow_succ (n : Nat) : tenPow (n + 1) = tenPow n * 10 := rfl

theorem tenPow_pos (n : Nat) : 0 < tenPow n := by
  induction n with
  | zero => decide
  | succ n ih => rw [tenPow_succ]; omega

theorem twoPow_succ (n : Nat) : twoPow (n + 1) = twoPow n * 2 := rfl

theorem twoPow_pos (n : Nat) : 0 < twoPow n := by
  induction n with
  | zero => decide
  | succ n ih => rw [twoPow_succ]; omega

end MoneyMarket.Numeral
