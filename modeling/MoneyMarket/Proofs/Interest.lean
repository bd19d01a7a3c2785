import MoneyMarket.Proofs.Rounding
import Mathlib.Data.Nat.Choose.Basic

/-!
# Interest between two times

Both factors are at least one. Debt grows by no less than the rate of whole seconds, supply by no
more than the exact yearly rate. The divisions by two and six in the compounded factor leave nothing
over: they count the pairs and the triples of seconds.
-/

namespace MoneyMarket.Interest

open MoneyMarket.FixedPoint

variable {rate last now n factor : Int}

theorem secondsPerYear_pos : 0 < secondsPerYear := by decide

theorem cast_secondsPerYear : ((secondsPerYear : Int) : ℚ) = 31536000 := by
  norm_num [secondsPerYear]

theorem elapsed_ok (h : last ≤ now) : elapsed last now = .ok (now - last) := by
  rw [elapsed, if_neg (by omega)]

/-! ## Linear -/

theorem linearFactor_ok (hrate : 0 ≤ rate) (h : last ≤ now) :
    linearFactor rate last now = .ok (linearAfter rate (now - last)) := by
  simp only [linearFactor, requireNonNegative_ok hrate, elapsed_ok h, ok_bind]
  rfl

theorem ray_le_linearAfter (hrate : 0 ≤ rate) (hn : 0 ≤ n) : ray ≤ linearAfter rate n := by
  have := Int.ediv_nonneg (Int.mul_nonneg hrate hn) (Int.le_of_lt secondsPerYear_pos)
  unfold linearAfter
  omega

theorem linearAfter_zero (n : Int) : linearAfter 0 n = ray := by
  rw [linearAfter, Int.zero_mul]
  decide

theorem linearAfter_mono (hrate : 0 ≤ rate) {m : Int} (h : m ≤ n) :
    linearAfter rate m ≤ linearAfter rate n := by
  have hproduct := Int.mul_le_mul_of_nonneg_left h hrate
  have := Int.ediv_le_ediv secondsPerYear_pos hproduct
  unfold linearAfter
  omega

theorem linearAfter_le (rate n : Int) :
    (linearAfter rate n : ℚ) ≤ ray + rate * n / secondsPerYear := by
  have h := cast_ediv_le secondsPerYear_pos (rate * n)
  unfold linearAfter
  push_cast at h ⊢
  linarith

/-! ## Choices of seconds -/

def choose (n : Int) (k : Nat) : Int := n.toNat.choose k

theorem choose_nonneg (n : Int) (k : Nat) : 0 ≤ choose n k := Int.natCast_nonneg _

theorem choose_mono {m : Int} (h : m ≤ n) (k : Nat) : choose m k ≤ choose n k :=
  Int.ofNat_le.2 (Nat.choose_le_choose k (Int.toNat_le_toNat h))

theorem choose_two (hn : 0 ≤ n) : 2 * choose n 2 = n * (n - 1) := by
  obtain ⟨m, rfl⟩ := Int.eq_ofNat_of_zero_le hn
  clear hn
  rw [choose, Int.toNat_natCast]
  induction m with
  | zero => rfl
  | succ m ih =>
    rw [Nat.choose_succ_succ' m 1, Nat.choose_one_right]
    push_cast
    linarith

theorem choose_three (hn : 0 ≤ n) : 6 * choose n 3 = n * (n - 1) * (n - 2) := by
  obtain ⟨m, rfl⟩ := Int.eq_ofNat_of_zero_le hn
  clear hn
  rw [choose, Int.toNat_natCast]
  induction m with
  | zero => rfl
  | succ m ih =>
    have hpairs := choose_two (Int.natCast_nonneg m)
    rw [choose, Int.toNat_natCast] at hpairs
    rw [Nat.choose_succ_succ' m 2]
    push_cast
    linarith

theorem choose_three_capped (hn : 0 ≤ n) :
    6 * choose n 3 = n * (n - 1) * if n > 2 then n - 2 else 0 := by
  split
  · exact choose_three hn
  · rename_i hfew
    have hnone : n = 0 ∨ n = 1 ∨ n = 2 := by omega
    rcases hnone with rfl | rfl | rfl <;> rfl

/-! ## Compounded -/

theorem binomialAfter_eq (x square cube : Int) (hn : 0 ≤ n) : binomialAfter x square cube n =
    ray + x * n + choose n 2 * square + choose n 3 * cube := by
  have hsecond : n * (n - 1) * square / 2 = choose n 2 * square := by
    rw [← choose_two hn, Int.mul_assoc, Int.mul_ediv_cancel_left _ (by decide)]
  have hthird : n * (n - 1) * (if n > 2 then n - 2 else 0) * cube / 6 = choose n 3 * cube := by
    rw [← choose_three_capped hn, Int.mul_assoc, Int.mul_ediv_cancel_left _ (by decide)]
  simp only [binomialAfter, hsecond, hthird]

def compoundAfter (rate n : Int) : Int :=
  let x := rate / secondsPerYear
  let square := mulRound ray halfRay x x
  binomialAfter x square (mulRound ray halfRay square x) n

theorem compoundAfter_zero (rate : Int) : compoundAfter rate 0 = ray := by
  simp only [compoundAfter, binomialAfter, Int.mul_zero, Int.zero_mul, Int.zero_ediv, Int.add_zero]

theorem perSecond_nonneg (hrate : 0 ≤ rate) : 0 ≤ rate / secondsPerYear :=
  Int.ediv_nonneg hrate (Int.le_of_lt secondsPerYear_pos)

theorem compoundedFactor_ok (hrate : 0 ≤ rate) (h : last ≤ now) :
    compoundedFactor rate last now = .ok (compoundAfter rate (now - last)) := by
  have hx := perSecond_nonneg hrate
  have hsquare : 0 ≤ mulRound ray halfRay (rate / secondsPerYear) (rate / secondsPerYear) :=
    rayRound_nonneg hx hx
  simp only [compoundedFactor, requireNonNegative_ok hrate, elapsed_ok h, ok_bind, rayMul,
    mulChecked_ok _ _ hx hx, mulChecked_ok _ _ hsquare hx]
  split
  · rename_i hzero
    rw [hzero, compoundAfter_zero]
    rfl
  · rfl

theorem compoundedFactor_ok_iff {factor : Int} : compoundedFactor rate last now = .ok factor ↔
    0 ≤ rate ∧ last ≤ now ∧ compoundAfter rate (now - last) = factor := by
  constructor
  · intro h
    have hready : 0 ≤ rate ∧ last ≤ now := by
      simp only [compoundedFactor, bind_ok_iff, requireNonNegative_ok_iff, exists_const] at h
      obtain ⟨hrate, n, hn, _⟩ := h
      unfold elapsed at hn
      split at hn
      · cases hn
      · exact ⟨hrate, by omega⟩
    rw [compoundedFactor_ok hready.1 hready.2] at h
    cases h
    exact ⟨hready.1, hready.2, rfl⟩
  · rintro ⟨hrate, hle, rfl⟩
    exact compoundedFactor_ok hrate hle

/-- A debt that is owed for `n` seconds bears at least simple interest by the second. -/
theorem le_compoundAfter (hrate : 0 ≤ rate) (hn : 0 ≤ n) :
    ray + rate / secondsPerYear * n ≤ compoundAfter rate n := by
  have hx := perSecond_nonneg hrate
  have hsquare := rayRound_nonneg hx hx
  have hpairs := Int.mul_nonneg (choose_nonneg n 2) hsquare
  have htriples := Int.mul_nonneg (choose_nonneg n 3) (rayRound_nonneg hsquare hx)
  simp only [compoundAfter, binomialAfter_eq _ _ _ hn]
  omega

theorem ray_le_compoundAfter (hrate : 0 ≤ rate) (hn : 0 ≤ n) : ray ≤ compoundAfter rate n := by
  have hle := le_compoundAfter hrate hn
  have hsimple := Int.mul_nonneg (perSecond_nonneg hrate) hn
  omega

theorem compoundAfter_eq_ray_iff (hrate : 0 ≤ rate) (hn : 0 ≤ n) :
    compoundAfter rate n = ray ↔ n = 0 ∨ rate < secondsPerYear := by
  constructor
  · intro hone
    by_contra hgrows
    rw [not_or, Int.not_lt] at hgrows
    have hsecond : 1 ≤ rate / secondsPerYear :=
      (Int.le_ediv_iff_mul_le secondsPerYear_pos).2 (by omega)
    have hsimple := Int.mul_le_mul hsecond (show 1 ≤ n by omega) (by decide) (by omega)
    have hle := le_compoundAfter hrate hn
    omega
  · rintro (rfl | hslow)
    · exact compoundAfter_zero rate
    · have hnothing : rate / secondsPerYear = 0 := Int.ediv_eq_zero_of_lt hrate hslow
      simp only [compoundAfter, hnothing, rayRound_zero, binomialAfter, Int.zero_mul, Int.mul_zero,
        Int.zero_ediv, Int.add_zero]

theorem compoundAfter_mono (hrate : 0 ≤ rate) {other : Int} (hle : rate ≤ other) {m : Int}
    (hm : 0 ≤ m) (h : m ≤ n) : compoundAfter rate m ≤ compoundAfter other n := by
  have hx := perSecond_nonneg hrate
  have hxy := Int.ediv_le_ediv secondsPerYear_pos hle
  simp only [compoundAfter, binomialAfter_eq _ _ _ hm, binomialAfter_eq _ _ _ (Int.le_trans hm h)]
  generalize rate / secondsPerYear = x at hx hxy
  generalize other / secondsPerYear = y at hxy
  have hy : 0 ≤ y := Int.le_trans hx hxy
  have hsquare := rayRound_nonneg hx hx
  have hsquares := rayRound_mono_both hx hx hxy hxy
  have hcubes := rayRound_mono_both hsquare hx hsquares hxy
  have hfirst := Int.mul_le_mul hxy h hm hy
  have hsecond := Int.mul_le_mul (choose_mono h 2) hsquares hsquare (choose_nonneg n 2)
  have hthird := Int.mul_le_mul (choose_mono h 3) hcubes (rayRound_nonneg hsquare hx)
    (choose_nonneg n 3)
  omega

/-- The interest of whole seconds falls short of the yearly rate by less than one a second. -/
theorem le_compoundAfter_yearly (hrate : 0 ≤ rate) (hn : 0 ≤ n) :
    (ray + n * (rate / secondsPerYear - 1) : ℚ) ≤ compoundAfter rate n := by
  have hle : ((ray + rate / secondsPerYear * n : Int) : ℚ) ≤ compoundAfter rate n := by
    exact_mod_cast le_compoundAfter hrate hn
  have hfloor := (lt_cast_ediv_add_one secondsPerYear_pos rate).le
  have hcast : (0 : ℚ) ≤ n := by exact_mod_cast hn
  have hmul := mul_le_mul_of_nonneg_left hfloor hcast
  push_cast at hle
  linarith

end MoneyMarket.Interest
