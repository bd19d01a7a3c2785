import MoneyMarket.Proofs.Interest
import Mathlib.Tactic.LinearCombination

/-!
# Interest of a period that is cut in two

The factors of both parts multiply to interest on interest, and the factor of the whole has no more
than they. Where the whole has a rounded power of the rate, the parts have a product; that costs at
most half a unit for each choice of seconds from both parts. Linear interest loses a unit at most.
-/

namespace MoneyMarket.Interest

open MoneyMarket.FixedPoint

variable {rate a b : Int}

/-! ## Choices from both parts -/

theorem choose_two_add (ha : 0 ≤ a) (hb : 0 ≤ b) :
    choose (a + b) 2 = choose a 2 + a * b + choose b 2 := by
  have hfirst := choose_two ha
  have hsecond := choose_two hb
  have hall := choose_two (Int.add_nonneg ha hb)
  have htwice : 2 * choose (a + b) 2 = 2 * (choose a 2 + a * b + choose b 2) := by
    linear_combination hall - hfirst - hsecond
  omega

theorem choose_three_add (ha : 0 ≤ a) (hb : 0 ≤ b) :
    choose (a + b) 3 = choose a 3 + (choose a 2 * b + a * choose b 2) + choose b 3 := by
  have hfirst := choose_three ha
  have hsecond := choose_three hb
  have hall := choose_three (Int.add_nonneg ha hb)
  have hpairs := choose_two ha
  have hpairs' := choose_two hb
  have hsix : 6 * choose (a + b) 3 =
      6 * (choose a 3 + (choose a 2 * b + a * choose b 2) + choose b 3) := by
    linear_combination hall - hfirst - hsecond - 3 * b * hpairs - 3 * a * hpairs'
  omega

/-! ## Factors -/

theorem cut_product_le {u v w u' v' w' : ℚ} (hu : 0 ≤ u) (hv : 0 ≤ v) (hw : 0 ≤ w) (hu' : 0 ≤ u')
    (hv' : 0 ≤ v') (hw' : 0 ≤ w') :
    u * u' + (v * u' + u * v') ≤ (u + v + w) * (u' + v' + w') := by
  have hrest : 0 ≤ u * w' + v * v' + v * w' + w * (u' + v' + w') := by positivity
  linarith

section Powers

variable {x square cube : Int} (hx : 0 ≤ x) (hsquare : 0 ≤ square) (hcube : 0 ≤ cube)
  (ha : 0 ≤ a) (hb : 0 ≤ b)
include hx hsquare hcube ha hb

theorem interest_on_interest :
    (a * b * (x * ofRay x) + (choose a 2 * b + a * choose b 2) * (square * ofRay x) : ℚ) ≤
      (binomialAfter x square cube a - ray) * (binomialAfter x square cube b - ray) / ray := by
  have hx' : (0 : ℚ) ≤ x := by exact_mod_cast hx
  have hsquare' : (0 : ℚ) ≤ square := by exact_mod_cast hsquare
  have hcube' : (0 : ℚ) ≤ cube := by exact_mod_cast hcube
  have ha' : (0 : ℚ) ≤ a := by exact_mod_cast ha
  have hb' : (0 : ℚ) ≤ b := by exact_mod_cast hb
  have hchoose (n : Int) (k : Nat) : (0 : ℚ) ≤ choose n k := by exact_mod_cast choose_nonneg n k
  have hcut := cut_product_le (mul_nonneg hx' ha') (mul_nonneg (hchoose a 2) hsquare')
    (mul_nonneg (hchoose a 3) hcube') (mul_nonneg hx' hb') (mul_nonneg (hchoose b 2) hsquare')
    (mul_nonneg (hchoose b 3) hcube')
  rw [binomialAfter_eq _ _ _ ha, binomialAfter_eq _ _ _ hb, le_div_iff₀ cast_ray_pos]
  push_cast
  have hunit := ray_mul_ofRay x
  calc ((a * b * (x * ofRay x) + (choose a 2 * b + a * choose b 2) * (square * ofRay x)) * ray : ℚ)
      = a * b * (x * (ray * ofRay x)) +
          (choose a 2 * b + a * choose b 2) * (square * (ray * ofRay x)) := by ring
    _ = x * a * (x * b) + (choose a 2 * square * (x * b) + x * a * (choose b 2 * square)) := by
        rw [hunit]
        ring
    _ ≤ (x * a + choose a 2 * square + choose a 3 * cube) *
          (x * b + choose b 2 * square + choose b 3 * cube) := hcut
    _ = _ := by ring

/-- The whole has rounded powers where the parts have products, of which there are a pair for each
second of both and a triple for each pair of one with a second of the other. -/
theorem binomialAfter_add_le (hs : (square : ℚ) ≤ x * ofRay x + 1 / 2)
    (hc : (cube : ℚ) ≤ square * ofRay x + 1 / 2) :
    (binomialAfter x square cube (a + b) : ℚ) ≤
      binomialAfter x square cube a * binomialAfter x square cube b / ray +
        a * b * (a + b) / 4 := by
  have hproducts := interest_on_interest hx hsquare hcube ha hb
  have hab : (0 : ℚ) ≤ a * b := by exact_mod_cast Int.mul_nonneg ha hb
  have hmixed : (0 : ℚ) ≤ choose a 2 * b + a * choose b 2 := by
    have := Int.add_nonneg (Int.mul_nonneg (choose_nonneg a 2) hb)
      (Int.mul_nonneg ha (choose_nonneg b 2))
    exact_mod_cast this
  have hcount : (choose a 2 * b + a * choose b 2 : ℚ) = a * b * (a + b - 2) / 2 := by
    have hfirst : (2 * choose a 2 : ℚ) = a * (a - 1) := by exact_mod_cast choose_two ha
    have hsecond : (2 * choose b 2 : ℚ) = b * (b - 1) := by exact_mod_cast choose_two hb
    linear_combination b / 2 * hfirst + a / 2 * hsecond
  have hsecond := mul_le_mul_of_nonneg_left hs hab
  have hthird := mul_le_mul_of_nonneg_left hc hmixed
  -- the whole has a rounded power wherever the product of the parts has a product
  have hwhole : (binomialAfter x square cube (a + b) : ℚ) =
      binomialAfter x square cube a + binomialAfter x square cube b - ray +
        a * b * square + (choose a 2 * b + a * choose b 2) * cube := by
    rw [binomialAfter_eq _ _ _ ha, binomialAfter_eq _ _ _ hb,
      binomialAfter_eq _ _ _ (Int.add_nonneg ha hb), choose_two_add ha hb, choose_three_add ha hb]
    push_cast
    ring
  have hparts : (binomialAfter x square cube a * binomialAfter x square cube b / ray : ℚ) =
      binomialAfter x square cube a + binomialAfter x square cube b - ray +
        (binomialAfter x square cube a - ray) * (binomialAfter x square cube b - ray) / ray := by
    have hray := cast_ray_pos
    field_simp
    ring
  rw [hwhole, hparts]
  rw [mul_add, hcount] at hthird
  rw [hcount] at hproducts ⊢
  linarith

end Powers

theorem compoundAfter_add_le (hrate : 0 ≤ rate) (ha : 0 ≤ a) (hb : 0 ≤ b) :
    4 * compoundAfter rate (a + b) ≤
      4 * mulRound ray halfRay (compoundAfter rate a) (compoundAfter rate b) +
        a * b * (a + b) + 2 := by
  have hx := perSecond_nonneg hrate
  have hsquare := rayRound_nonneg hx hx
  have hnear (y : Int) : (mulRound ray halfRay y (rate / secondsPerYear) : ℚ) ≤
      y * ofRay (rate / secondsPerYear) + 1 / 2 := by
    have := (abs_le.1 (rayRound_near y (rate / secondsPerYear))).2
    linarith
  have hjoined := lt_rayRound (compoundAfter rate a) (compoundAfter rate b)
  have hle := binomialAfter_add_le hx hsquare (rayRound_nonneg hsquare hx) ha hb (hnear _) (hnear _)
  have hcast : (4 * compoundAfter rate (a + b) : ℚ) ≤
      4 * mulRound ray halfRay (compoundAfter rate a) (compoundAfter rate b) +
        a * b * (a + b) + 2 := by
    unfold compoundAfter at *
    linarith
  exact_mod_cast hcast

theorem linearAfter_add_le (hrate : 0 ≤ rate) (ha : 0 ≤ a) (hb : 0 ≤ b) :
    linearAfter rate (a + b) ≤
      mulRound ray halfRay (linearAfter rate a) (linearAfter rate b) + 1 := by
  have hfirst := Int.ediv_nonneg (Int.mul_nonneg hrate ha) (Int.le_of_lt secondsPerYear_pos)
  have hsecond := Int.ediv_nonneg (Int.mul_nonneg hrate hb) (Int.le_of_lt secondsPerYear_pos)
  have hsum : rate * (a + b) / secondsPerYear ≤
      rate * a / secondsPerYear + rate * b / secondsPerYear + 1 := by
    rw [Int.mul_add]
    unfold secondsPerYear
    omega
  unfold linearAfter
  generalize rate * a / secondsPerYear = f at *
  generalize rate * b / secondsPerYear = g at *
  have hjoined : f + g + ray ≤ mulRound ray halfRay (f + ray) (g + ray) := by
    have hhalf : 0 ≤ halfRay := by decide
    have hproduct := Int.mul_nonneg hfirst hsecond
    refine Int.le_ediv_of_mul_le ray_pos ?_
    linarith
  omega

end MoneyMarket.Interest
