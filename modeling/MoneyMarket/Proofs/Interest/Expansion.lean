import MoneyMarket.Proofs.Interest

/-!
# The expansion of compound interest

The compounded factor is growth by the second, `(1 + x) ^ n`, expanded and cut after the third power.
Apart from the rate of one second only the powers of that rate are rounded. Linear interest is taken
on the yearly rate itself, and is ahead of compound interest by no more than what single seconds lose.
-/

namespace MoneyMarket.Interest

open MoneyMarket.FixedPoint

variable {rate last n x : Int}

/-! ## Rounded powers -/

/-- The expansion of `(1 + x) ^ n`, cut after the third power. -/
def expansion (x : ℚ) (n : Int) : ℚ := 1 + n * x + choose n 2 * x ^ 2 + choose n 3 * x ^ 3

/-- How far the rounding of its powers can move an expansion. -/
def expansionSlack (x : ℚ) (n : Int) : ℚ := choose n 2 / 2 + choose n 3 * (1 + x) / 2

theorem ray_mul_expansion (x n : Int) : ray * expansion (ofRay x) n =
    ray + n * x + choose n 2 * (x * ofRay x) + choose n 3 * (x * ofRay x * ofRay x) := by
  calc ray * expansion (ofRay x) n
      = ray + n * (ray * ofRay x) + choose n 2 * (ray * ofRay x * ofRay x) +
          choose n 3 * (ray * ofRay x * ofRay x * ofRay x) := by
        unfold expansion
        ring
    _ = _ := by rw [ray_mul_ofRay]

theorem cube_near {square : Int} (hx : 0 ≤ x) (h : |(square : ℚ) - x * ofRay x| ≤ 1 / 2) :
    |(mulRound ray halfRay square x : ℚ) - x * ofRay x * ofRay x| ≤ (1 + ofRay x) / 2 := by
  have hcube := rayRound_near square x
  have hscaled := scaled_near (ofRay_nonneg hx) h
  rw [abs_le] at *
  constructor <;> linarith

theorem compoundAfter_near (hrate : 0 ≤ rate) (hn : 0 ≤ n) :
    |(compoundAfter rate n : ℚ) - ray * expansion (ofRay (rate / secondsPerYear)) n| ≤
      expansionSlack (ofRay (rate / secondsPerYear)) n := by
  have hx := perSecond_nonneg hrate
  have hpairs : (0 : ℚ) ≤ choose n 2 := by exact_mod_cast choose_nonneg n 2
  have htriples : (0 : ℚ) ≤ choose n 3 := by exact_mod_cast choose_nonneg n 3
  have hsquare := rayRound_near (rate / secondsPerYear) (rate / secondsPerYear)
  have hsecond := scaled_near hpairs hsquare
  have hthird := scaled_near htriples (cube_near hx hsquare)
  rw [ray_mul_expansion, expansionSlack]
  simp only [compoundAfter, binomialAfter_eq _ _ _ hn]
  push_cast
  rw [abs_le] at *
  constructor <;> linarith

/-! ## Linear and compound interest -/

theorem linearAfter_le_perSecond (rate : Int) (hn : 1 ≤ n) :
    linearAfter rate n ≤ ray + rate / secondsPerYear * n + (n - 1) := by
  have hrest := Int.lt_ediv_add_one_mul_self rate secondsPerYear_pos
  have hall := Int.mul_lt_mul_of_pos_right hrest (show 0 < n by omega)
  have hfloor : rate * n / secondsPerYear < (rate / secondsPerYear + 1) * n := by
    rw [Int.ediv_lt_iff_lt_mul secondsPerYear_pos]
    linarith
  rw [Int.add_mul] at hfloor
  unfold linearAfter
  omega

theorem linearAfter_le_compoundAfter (hrate : 0 ≤ rate) (hn : 1 ≤ n) :
    linearAfter rate n ≤ compoundAfter rate n + (n - 1) := by
  have hlinear := linearAfter_le_perSecond rate hn
  have hcompound := le_compoundAfter hrate (show 0 ≤ n by omega)
  omega

/-- **Compounding is a truncated expansion.** The factor is the expansion in the rounded powers of the
rate of one second, in which both divisions come out even. It is as far from the expansion in exact
powers as their roundings can move it, does not fall with the rate or with time, and keeps up with
linear interest but for what single seconds lose. -/
theorem compounded_expansion (hrate : 0 ≤ rate) (hn : 0 ≤ n) :
    ∃ square cube factor,
      rayMul (rate / secondsPerYear) (rate / secondsPerYear) = .ok square ∧
      rayMul square (rate / secondsPerYear) = .ok cube ∧
      compoundedFactor rate last (last + n) = .ok factor ∧
      factor = ray + n * (rate / secondsPerYear) + choose n 2 * square + choose n 3 * cube ∧
      2 ∣ n * (n - 1) * square ∧ 6 ∣ n * (n - 1) * (if n > 2 then n - 2 else 0) * cube ∧
      (∀ other since m, rate ≤ other → n ≤ m →
        ∃ more, compoundedFactor other since (since + m) = .ok more ∧ factor ≤ more) ∧
      |(factor : ℚ) - ray * expansion (ofRay (rate / secondsPerYear)) n| ≤
        expansionSlack (ofRay (rate / secondsPerYear)) n ∧
      (1 ≤ n → ∃ simple, linearFactor rate last (last + n) = .ok simple ∧
        simple ≤ factor + (n - 1)) := by
  have hx := perSecond_nonneg hrate
  have hsquare := rayRound_nonneg hx hx
  have hafter (other since : Int) {m : Int} (hother : 0 ≤ other) (hm : 0 ≤ m) :
      compoundedFactor other since (since + m) = .ok (compoundAfter other m) := by
    rw [compoundedFactor_ok hother (by omega), add_sub_cancel_left]
  -- the products of seconds are choices of two and of three, which leave no remainder
  refine ⟨_, _, _, mulChecked_ok _ _ hx hx, mulChecked_ok _ _ hsquare hx, hafter rate last hrate hn,
    ?_, ?_, ?_, ?_, compoundAfter_near hrate hn, ?_⟩
  · rw [Int.mul_comm n]
    exact binomialAfter_eq _ _ _ hn
  · rw [← choose_two hn, Int.mul_assoc]
    exact Int.dvd_mul_right _ _
  · rw [← choose_three_capped hn, Int.mul_assoc]
    exact Int.dvd_mul_right _ _
  · intro other since m hother hm
    exact ⟨_, hafter other since (Int.le_trans hrate hother) (Int.le_trans hn hm),
      compoundAfter_mono hrate hother hn hm⟩
  · intro hpos
    refine ⟨_, linearFactor_ok hrate (by omega), ?_⟩
    rw [add_sub_cancel_left]
    exact linearAfter_le_compoundAfter hrate hpos

theorem expansion_of_three_seconds :
    ∃ factor simple,
      compoundedFactor (2000000000000000000 * secondsPerYear - 1) 0 3 = .ok factor ∧
      factor = ray + 3 * 1999999999999999999 + 3 * 4000000000 + 8 ∧
      |(factor : ℚ) - ray * expansion (ofRay 1999999999999999999) 3| ≤
        expansionSlack (ofRay 1999999999999999999) 3 ∧
      linearFactor (2000000000000000000 * secondsPerYear - 1) 0 3 = .ok simple ∧
      simple ≤ factor + 2 := by
  obtain ⟨square, cube, factor, hsquare, hcube, hfactor, hsum, -, -, -, hnear, hlinear⟩ :=
    @compounded_expansion (2000000000000000000 * secondsPerYear - 1) 0 3 (by decide) (by decide)
  obtain ⟨simple, hsimple, hle⟩ := hlinear (by decide)
  have hsecond : (2000000000000000000 * secondsPerYear - 1) / secondsPerYear =
      1999999999999999999 := by decide
  rw [hsecond] at hsquare hcube hsum hnear
  obtain rfl : 4000000000 = square := (rayMul_ok_iff.1 hsquare).2.2
  obtain rfl : 8 = cube := (rayMul_ok_iff.1 hcube).2.2
  exact ⟨factor, simple, hfactor, hsum, hnear, hsimple, hle⟩

end MoneyMarket.Interest
