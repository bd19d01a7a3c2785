import Mathlib.Algebra.Order.Ring.Int
import MoneyMarket.Numeral.Decimal

/-!
# Significant digits

A product keeps `precision` significant digits. `significant n` is what that leaves of a whole
number `n`: `n` itself exactly if the digits of `n` beyond the first `precision` are zeros. Rounding
goes along with multiplication by powers of ten, so where the point stands makes no difference.
-/

namespace MoneyMarket

namespace Numeral

variable {n k : Nat}

theorem tenPow_add (a b : Nat) : tenPow (a + b) = tenPow a * tenPow b := Nat.pow_add 10 a b

theorem tenPow_lt_tenPow {a b : Nat} (h : a < b) : tenPow a < tenPow b :=
  Nat.pow_lt_pow_right (by decide) h

theorem tenPow_le_iff (k n : Nat) : tenPow k ≤ n ↔ k < digitCount n ∧ 0 < n := by
  rw [digitCount_eq_countDigits]
  exact tenPow_le_iff_lt_countDigits k n

theorem digitCount_le_of_lt (h : n < tenPow k) (hn : 0 < n) : digitCount n ≤ k := by
  by_contra hk
  exact absurd ((tenPow_le_iff k n).2 ⟨by omega, hn⟩) (by omega)

theorem digitCount_mul_tenPow (hn : 0 < n) (k : Nat) :
    digitCount (n * tenPow k) = digitCount n + k := by
  rw [digitCount_eq_countDigits, digitCount_eq_countDigits]
  induction k with
  | zero => rw [show tenPow 0 = 1 from rfl, Nat.mul_one, Nat.add_zero]
  | succ k ih =>
    have hpos : 0 < n * tenPow k := Nat.mul_pos hn (tenPow_pos k)
    rw [tenPow_succ, ← Nat.mul_assoc, countDigits, if_neg (by omega),
      Nat.mul_div_cancel _ (by decide), ih, Nat.add_assoc]

theorem nearestEven_le_of_le_mul {num den b : Nat} (hden : 0 < den) (h : num ≤ b * den) :
    nearestEven num den ≤ b := by
  by_cases hq : num / den < b
  · unfold nearestEven
    simp only
    split
    · exact hq.le
    · exact hq
  · have hfull : num = b * den :=
      Nat.le_antisymm h ((Nat.le_div_iff_mul_le hden).1 (Nat.not_lt.1 hq))
    exact (hfull ▸ nearestEven_mul_self b hden).le

theorem le_nearestEven_of_mul_le {num den b : Nat} (hden : 0 < den) (h : b * den ≤ num) :
    b ≤ nearestEven num den := by
  refine ((Nat.le_div_iff_mul_le hden).2 h).trans ?_
  unfold nearestEven
  simp only
  split <;> omega

theorem nearestEven_mul_right (num den : Nat) {k : Nat} (hk : 0 < k) :
    nearestEven (num * k) (den * k) = nearestEven num den := by
  unfold nearestEven
  rw [Nat.mul_div_mul_right num den hk, Nat.mul_mod_mul_right]
  have hlt : 2 * (num % den * k) < den * k ↔ 2 * (num % den) < den := by
    rw [← Nat.mul_assoc]
    exact Nat.mul_lt_mul_right hk
  have heq : 2 * (num % den * k) = den * k ↔ 2 * (num % den) = den := by
    rw [← Nat.mul_assoc]
    exact Nat.mul_left_inj hk.ne'
  simp only [hlt, heq]

end Numeral

namespace Decimal

open MoneyMarket.Numeral

variable {n : Nat}

/-- The number rounded to `precision` significant digits, a half to the even neighbour. -/
def significant (n : Nat) : Nat :=
  nearestEven n (tenPow (digitCount n - precision)) * tenPow (digitCount n - precision)

/-- Zeros apart, the number has no more than `precision` digits. -/
def Short (n : Nat) : Prop := ∃ m j, m < tenPow precision ∧ n = m * tenPow j

theorem nearestEven_one (n : Nat) : nearestEven n 1 = n := by
  have h := nearestEven_mul_self n Nat.one_pos
  rwa [Nat.mul_one] at h

theorem significant_of_le (h : digitCount n ≤ precision) : significant n = n := by
  rw [significant, Nat.sub_eq_zero_of_le h, show tenPow 0 = 1 from rfl, nearestEven_one,
    Nat.mul_one]

theorem significant_zero : significant 0 = 0 := significant_of_le (by decide +kernel)

theorem nearestEven_spare_le (n : Nat) :
    nearestEven n (tenPow (digitCount n - precision)) ≤ tenPow precision := by
  refine nearestEven_le_of_le_mul (tenPow_pos _) ?_
  rw [← tenPow_add]
  refine (lt_tenPow_digitCount n).le.trans (Nat.pow_le_pow_right (by decide) ?_)
  omega

theorem significant_le (n : Nat) : significant n ≤ tenPow (max (digitCount n) precision) := by
  have h := Nat.mul_le_mul_right (tenPow (digitCount n - precision)) (nearestEven_spare_le n)
  have hall : precision + (digitCount n - precision) = max (digitCount n) precision := by omega
  rwa [← tenPow_add, hall] at h

theorem tenPow_le_significant {j : Nat} (h : tenPow j ≤ n) : tenPow j ≤ significant n := by
  by_cases hfew : digitCount n ≤ precision
  · rwa [significant_of_le hfew]
  · obtain ⟨hj, -⟩ := (tenPow_le_iff j n).1 h
    have hfirst : tenPow (digitCount n - 1) ≤ n :=
      (tenPow_le_iff _ n).2 ⟨by omega, (tenPow_pos j).trans_le h⟩
    rw [show digitCount n - 1 = precision - 1 + (digitCount n - precision) by
      unfold precision at *; omega, tenPow_add] at hfirst
    refine le_trans ?_ (Nat.mul_le_mul_right _ (le_nearestEven_of_mul_le (tenPow_pos _) hfirst))
    rw [← tenPow_add]
    refine Nat.pow_le_pow_right (by decide) ?_
    unfold precision at *
    omega

theorem significant_mul_tenPow (n k : Nat) :
    significant (n * tenPow k) = significant n * tenPow k := by
  rcases Nat.eq_zero_or_pos n with rfl | hn
  · rw [Nat.zero_mul, significant_zero, Nat.zero_mul]
  rw [significant, digitCount_mul_tenPow hn k]
  by_cases hlong : precision ≤ digitCount n
  · rw [show digitCount n + k - precision = digitCount n - precision + k by omega, tenPow_add,
      nearestEven_mul_right _ _ (tenPow_pos k), ← Nat.mul_assoc, significant]
  · -- What is rounded away are zeros of the factor.
    rw [significant_of_le (Nat.le_of_not_le hlong)]
    obtain ⟨j, hj⟩ : ∃ j, k = j + (digitCount n + k - precision) :=
      ⟨k - (digitCount n + k - precision), by omega⟩
    have hsplit : n * tenPow k = n * tenPow j * tenPow (digitCount n + k - precision) := by
      rw [Nat.mul_assoc, ← tenPow_add, ← hj]
    rw [hsplit, nearestEven_mul_self _ (tenPow_pos _)]

theorem significant_eq_self_iff : significant n = n ↔ Short n := by
  constructor
  · intro h
    rcases (nearestEven_spare_le n).lt_or_eq with hlt | hfull
    · exact ⟨_, _, hlt, h.symm⟩
    · refine ⟨1, precision + (digitCount n - precision), by decide, ?_⟩
      rw [Nat.one_mul, tenPow_add, ← hfull]
      exact h.symm
  · rintro ⟨m, j, hm, rfl⟩
    rw [significant_mul_tenPow]
    rcases Nat.eq_zero_or_pos m with rfl | hpos
    · rw [significant_zero]
    · rw [significant_of_le (digitCount_le_of_lt hm hpos)]

theorem Short.mul_tenPow (h : Short n) (k : Nat) : Short (n * tenPow k) := by
  obtain ⟨m, j, hm, rfl⟩ := h
  exact ⟨m, j + k, hm, by rw [tenPow_add, Nat.mul_assoc]⟩

/-! ## Fitting a number -/

theorem wholePart_sub (c k f : Nat) : wholePart c (k - f) = c * tenPow k / tenPow f := by
  unfold wholePart
  split
  · rename_i hzero
    rw [hzero, Nat.zero_mul, Nat.zero_div]
  split
  · rename_i hle
    obtain ⟨j, rfl⟩ : ∃ j, k = j + f := ⟨k - f, by omega⟩
    rw [show ((j + f : Nat) - f : Int).toNat = j by omega, tenPow_add, ← Nat.mul_assoc,
      Nat.mul_div_cancel _ (tenPow_pos f)]
  · obtain ⟨j, rfl⟩ : ∃ j, f = j + k := ⟨f - k, by omega⟩
    rw [show (-((k : Int) - (j + k : Nat))).toNat = j by omega, tenPow_add,
      Nat.mul_div_mul_right _ _ (tenPow_pos k)]
    split
    · rename_i hdigits
      exact (Nat.div_eq_of_lt ((lt_tenPow_digitCount c).trans_le
        (Nat.pow_le_pow_right (by decide) hdigits))).symm
    · rfl

/-- Either the number keeps its significant digits, or it is so far below one that it has none left
above `minExponent`. -/
theorem fit_cases (n f : Nat) :
    (∃ c k : Nat, fit n (-f) = (c, (k : Int) - f) ∧ c * tenPow k = significant n) ∨
      ∃ c k : Nat, fit n (-f) = (c, (k : Int) - f) ∧ c ≤ tenPow precision ∧ k + 1000026 = f ∧
        significant n ≤ tenPow (k + precision - 1) := by
  have hmin : (minExponent - -(f : Int)).toNat = f - 1000026 := by unfold minExponent; omega
  unfold fit
  simp only [hmin]
  by_cases hfew : f - 1000026 ≤ digitCount n - precision
  · -- the digits beyond the precision go, and with them all that are too low
    left
    rw [max_eq_right hfew]
    split
    · rename_i hnone
      refine ⟨n, 0, by simp, ?_⟩
      rw [significant_of_le (by omega), show tenPow 0 = 1 from rfl, Nat.mul_one]
    · refine ⟨_, digitCount n - precision, Prod.ext rfl (by simp only; omega), ?_⟩
      rw [dropDigits, if_neg (by omega), significant]
  · -- more digits are too low than are beyond the precision, so what stays is far below one
    right
    rw [max_eq_left (Nat.le_of_not_le hfew), if_neg (by omega)]
    refine ⟨_, f - 1000026, Prod.ext rfl (by simp only; omega), ?_, by omega, ?_⟩
    · unfold dropDigits
      split
      · exact Nat.zero_le _
      · refine nearestEven_le_of_le_mul (tenPow_pos _) ?_
        rw [← tenPow_add]
        refine (lt_tenPow_digitCount n).le.trans (Nat.pow_le_pow_right (by decide) ?_)
        omega
    · refine (significant_le n).trans (Nat.pow_le_pow_right (by decide) ?_)
      unfold precision at *
      omega

theorem wholePart_fit (n f : Nat) :
    wholePart (fit n (-f)).1 (fit n (-f)).2 = significant n / tenPow f := by
  rcases fit_cases n f with ⟨c, k, hfit, hc⟩ | ⟨c, k, hfit, hc, hk, hsmall⟩
  · rw [hfit, wholePart_sub, hc]
  · rw [hfit, wholePart_sub, Nat.div_eq_of_lt, Nat.div_eq_of_lt]
    · refine hsmall.trans_lt (tenPow_lt_tenPow ?_)
      unfold precision
      omega
    · refine (Nat.mul_le_mul_right _ hc).trans_lt ?_
      rw [← tenPow_add]
      refine tenPow_lt_tenPow ?_
      unfold precision
      omega

theorem overflow_fit_iff (n f : Nat) :
    ((fit n (-f)).1 ≠ 0 ∧ maxExponent < (fit n (-f)).2 + digitCount (fit n (-f)).1 - 1) ↔
      tenPow (f + 1000000) ≤ significant n := by
  unfold maxExponent
  rcases fit_cases n f with ⟨c, k, hfit, hc⟩ | ⟨c, k, hfit, hc, hk, hsmall⟩
  · rw [hfit, ← hc]
    rcases Nat.eq_zero_or_pos c with rfl | hpos
    · have := tenPow_pos (f + 1000000)
      simp
      omega
    · rw [tenPow_le_iff, digitCount_mul_tenPow hpos]
      have := Nat.mul_pos hpos (tenPow_pos k)
      simp only
      omega
  · rw [hfit]
    refine iff_of_false ?_ (Nat.not_le.2 (hsmall.trans_lt (tenPow_lt_tenPow ?_)))
    · rintro ⟨hpos, hexp⟩
      have hfew : digitCount c ≤ precision + 1 :=
        digitCount_le_of_lt (hc.trans_lt (tenPow_lt_tenPow (Nat.lt_succ_self _))) (by omega)
      simp only [precision] at hfew hexp
      omega
    · unfold precision
      omega

/-- A finite decimal of `f` places, in units: rounded to its significant digits and then cut. -/
theorem times_truncated (negative : Bool) (c f k : Nat) :
    (do (← (Decimal.finite negative c (-f)).times (tenPow k)).truncated) =
      if tenPow (f + 1000000) ≤ significant (c * tenPow k) then .error .overflow
      else .ok (if negative then -((significant (c * tenPow k) / tenPow f : Nat) : Int)
        else (significant (c * tenPow k) / tenPow f : Nat)) := by
  simp only [times, overflow_fit_iff, ← wholePart_fit]
  split
  · rfl
  · rfl

end Decimal

end MoneyMarket
