import MoneyMarket.Numeral.Power

/-!
# Rounding a quotient to the nearest whole number

A half goes to the even neighbour, and a whole quotient comes back as it is.
-/

namespace MoneyMarket.Numeral

/-- The whole number nearest to `num / den`; a half goes to the even one. -/
def nearestEven (num den : Nat) : Nat :=
  let q := num / den
  let r := num % den
  if 2 * r < den ∨ (2 * r = den ∧ q % 2 = 0) then q else q + 1

theorem nearestEven_mul_self (q : Nat) {den : Nat} (hden : 0 < den) :
    nearestEven (q * den) den = q := by
  simp [nearestEven, Nat.mul_div_cancel _ hden, hden]

/-! ## How many digits a number has -/

def countDigits (n : Nat) : Nat := if n < 10 then 1 else countDigits (n / 10) + 1

/-- The number of digits less one, or one too few, by the number of bits. -/
def digitsByBits (n : Nat) : Nat := n.log2 * 301029995 / 1000000000

/-- How many digits a number has in base ten. The bits tell at once, and are counted on only where
they are right. -/
def digitCount (n : Nat) : Nat :=
  let guess := digitsByBits n
  if tenPow guess ≤ n ∧ n < tenPow (guess + 1) then guess + 1
  else if tenPow (guess + 1) ≤ n ∧ n < tenPow (guess + 2) then guess + 2
  else countDigits n

theorem tenPow_le_iff_lt_countDigits (k n : Nat) :
    tenPow k ≤ n ↔ k < countDigits n ∧ 0 < n := by
  induction k generalizing n with
  | zero =>
    have : tenPow 0 = 1 := rfl
    have hpos : 0 < countDigits n := by rw [countDigits]; split <;> omega
    omega
  | succ k ih =>
    have hk := tenPow_pos k
    have h := ih (n / 10)
    rw [countDigits, tenPow_succ]
    split
    · omega
    · omega

theorem digitCount_eq_countDigits (n : Nat) : digitCount n = countDigits n := by
  have h := fun k => tenPow_le_iff_lt_countDigits k n
  simp only [digitCount]
  split
  · rename_i hg
    have := h (digitsByBits n)
    have := h (digitsByBits n + 1)
    omega
  · split
    · rename_i hg
      have := h (digitsByBits n + 1)
      have := h (digitsByBits n + 2)
      omega
    · rfl

theorem lt_tenPow_digitCount (n : Nat) : n < tenPow (digitCount n) := by
  have h := tenPow_le_iff_lt_countDigits (digitCount n) n
  rw [digitCount_eq_countDigits] at h ⊢
  have := tenPow_pos (countDigits n)
  omega

def digitsValue (ds : List Nat) : Nat := ds.foldl (fun n d => 10 * n + d) 0

theorem digitsValue_append_one (ds : List Nat) (d : Nat) :
    digitsValue (ds ++ [d]) = 10 * digitsValue ds + d := by
  simp [digitsValue]

end MoneyMarket.Numeral
