import MoneyMarket.Proofs.FixedPoint
import Mathlib.Algebra.Order.Field.Rat
import Mathlib.Data.Rat.Cast.Order
import Mathlib.Tactic.FieldSimp
import Mathlib.Tactic.GCongr
import Mathlib.Tactic.Positivity

/-!
# Distance of rounded results

A rounded product or quotient is the exact rational one, give or take a half.
-/

namespace MoneyMarket.FixedPoint

/-! ## Units -/

theorem cast_ray : ((ray : Int) : ℚ) = 10 ^ 27 := by norm_num [ray]

theorem cast_raysPerWad : ((raysPerWad : Int) : ℚ) = 10 ^ 9 := by norm_num [raysPerWad]

theorem cast_whole : ((whole : Int) : ℚ) = 10000 := by norm_num [whole]

/-! ## Whole division -/

theorem cast_ediv_le {b : Int} (hb : 0 < b) (a : Int) : ((a / b : Int) : ℚ) ≤ a / b := by
  have hpos : (0 : ℚ) < b := by exact_mod_cast hb
  rw [le_div_iff₀ hpos]
  exact_mod_cast Int.ediv_mul_le a (Int.ne_of_gt hb)

theorem lt_cast_ediv_add_one {b : Int} (hb : 0 < b) (a : Int) :
    (a : ℚ) / b < ((a / b : Int) : ℚ) + 1 := by
  have hpos : (0 : ℚ) < b := by exact_mod_cast hb
  rw [div_lt_iff₀ hpos]
  exact_mod_cast Int.lt_ediv_add_one_mul_self a hb

/-! ## Products -/

section Products

variable {unit half : Int} (hu : unit = 2 * half) (hh : 0 < half) (a b : Int)
include hu hh

theorem mulRound_exact : ((a * b + half : Int) : ℚ) / unit = a * b / unit + 1 / 2 := by
  have hpos : (0 : ℚ) < half := by exact_mod_cast hh
  rw [hu]
  push_cast
  field_simp

theorem mulRound_le : (mulRound unit half a b : ℚ) ≤ a * b / unit + 1 / 2 := by
  rw [← mulRound_exact hu hh]
  exact cast_ediv_le (by omega) _

theorem lt_mulRound : (a * b / unit - 1 / 2 : ℚ) < mulRound unit half a b := by
  have hlt := lt_cast_ediv_add_one (show 0 < unit by omega) (a * b + half)
  rw [mulRound_exact hu hh] at hlt
  have hround : (mulRound unit half a b : ℚ) = ((a * b + half) / unit : Int) := rfl
  rw [hround]
  linarith

end Products

theorem rayRound_le (a b : Int) : (mulRound ray halfRay a b : ℚ) ≤ a * b / ray + 1 / 2 :=
  mulRound_le (by decide) (by decide) a b

theorem lt_rayRound (a b : Int) : (a * b / ray - 1 / 2 : ℚ) < mulRound ray halfRay a b :=
  lt_mulRound (by decide) (by decide) a b

theorem percentRound_le (a b : Int) :
    (mulRound whole halfWhole a b : ℚ) ≤ a * b / whole + 1 / 2 :=
  mulRound_le (by decide) (by decide) a b

theorem lt_percentRound (a b : Int) :
    (a * b / whole - 1 / 2 : ℚ) < mulRound whole halfWhole a b :=
  lt_mulRound (by decide) (by decide) a b

theorem rayRound_bounds (a b : Int) :
    ray * mulRound ray halfRay a b ≤ a * b + halfRay ∧
      a * b + halfRay < ray * mulRound ray halfRay a b + ray := by
  unfold mulRound ray
  omega

theorem mulRound_comm (unit half a b : Int) : mulRound unit half a b = mulRound unit half b a := by
  rw [mulRound, mulRound, Int.mul_comm]

theorem mulRound_mono {unit half a b c : Int} (hu : 0 < unit) (ha : 0 ≤ a) (h : b ≤ c) :
    mulRound unit half a b ≤ mulRound unit half a c := by
  refine Int.ediv_le_ediv hu ?_
  have := Int.mul_le_mul_of_nonneg_left h ha
  omega

theorem rayRound_mono {a b c : Int} (ha : 0 ≤ a) (h : b ≤ c) :
    mulRound ray halfRay a b ≤ mulRound ray halfRay a c := mulRound_mono ray_pos ha h

theorem rayRound_mono_both {a b c d : Int} (ha : 0 ≤ a) (hb : 0 ≤ b) (hac : a ≤ c) (hbd : b ≤ d) :
    mulRound ray halfRay a b ≤ mulRound ray halfRay c d := by
  have hright := rayRound_mono ha hbd
  have hleft := rayRound_mono (Int.le_trans hb hbd) hac
  rw [mulRound_comm _ _ d a, mulRound_comm _ _ d c] at hleft
  exact Int.le_trans hright hleft

theorem percentRound_self_le {a b : Int} (ha : 0 ≤ a) (hb : b ≤ whole) :
    mulRound whole halfWhole a b ≤ a := by
  have hle : mulRound whole halfWhole a b ≤ mulRound whole halfWhole a whole :=
    mulRound_mono (by decide) ha hb
  have hself : mulRound whole halfWhole a whole = a := by
    unfold mulRound whole halfWhole
    omega
  rwa [hself] at hle

theorem percentRound_pos {a b : Int} (ha : 0 < a) (hb : halfWhole ≤ b) :
    0 < mulRound whole halfWhole a b := by
  have hle : mulRound whole halfWhole a halfWhole ≤ mulRound whole halfWhole a b :=
    mulRound_mono (by decide) (Int.le_of_lt ha) hb
  have hhalf : 0 < mulRound whole halfWhole a halfWhole := by
    unfold mulRound whole halfWhole
    omega
  omega

theorem rayRound_one (b : Int) : mulRound ray halfRay ray b = b := by
  unfold mulRound ray halfRay
  omega

theorem rayRound_by_one (a : Int) : mulRound ray halfRay a ray = a := by
  rw [mulRound_comm, rayRound_one]

theorem rayRound_zero (b : Int) : mulRound ray halfRay 0 b = 0 := by
  rw [mulRound, Int.zero_mul]
  decide

theorem le_rayRound {a b : Int} (ha : 0 ≤ a) (hb : ray ≤ b) : a ≤ mulRound ray halfRay a b := by
  have h : mulRound ray halfRay a ray ≤ mulRound ray halfRay a b := rayRound_mono ha hb
  rwa [rayRound_by_one] at h

/-- Any factor of more than one shows, as long as what it grows is no less than one. -/
theorem rayRound_eq_self_iff {a b : Int} (ha : ray ≤ a) (hb : ray ≤ b) :
    mulRound ray halfRay a b = b ↔ a = ray := by
  constructor
  · intro hsame
    by_contra hne
    have hmore : mulRound ray halfRay b (ray + 1) ≤ mulRound ray halfRay b a :=
      rayRound_mono (nonneg_of_ray_le hb) (by omega)
    have hshows : b < mulRound ray halfRay b (ray + 1) := by
      unfold mulRound ray halfRay
      unfold ray at hb
      omega
    rw [mulRound_comm _ _ b a, hsame] at hmore
    omega
  · rintro rfl
    exact rayRound_one b

/-! ## Quotients -/

theorem le_divRound_iff (unit : Int) {a b n : Int} (hb : 0 < b) :
    n ≤ divRound unit a b ↔ (2 * n - 1) * b ≤ 2 * (a * unit) := by
  unfold divRound
  rw [Int.le_ediv_iff_mul_le hb]
  have hsplit : (2 * n - 1) * b = 2 * (n * b) - b := by ring
  rw [hsplit]
  -- the half of an odd divisor is cut, which makes no difference to a whole number
  have hodd : b % 2 = 0 ∨ b % 2 = 1 := by omega
  constructor <;> intro h <;> rcases hodd with h' | h' <;> omega

theorem divRound_le_iff (unit : Int) {a b n : Int} (hb : 0 < b) :
    divRound unit a b ≤ n ↔ 2 * (a * unit) < (2 * n + 1) * b := by
  rw [← Int.lt_add_one_iff, ← Int.not_le, le_divRound_iff unit hb, Int.not_le]
  have hnext : (2 * (n + 1) - 1 : Int) = 2 * n + 1 := by omega
  rw [hnext]

theorem rayQuotient_bounds (amount : Int) {index : Int} (hindex : 0 < index) :
    2 * (divRound ray amount index * index) ≤ 2 * (amount * ray) + index ∧
      2 * (amount * ray) < 2 * (divRound ray amount index * index) + index := by
  have hbelow := (le_divRound_iff ray hindex).1 (Int.le_refl (divRound ray amount index))
  have habove := mt (le_divRound_iff ray hindex).2
    (Int.not_le.2 (Int.lt_succ (divRound ray amount index)))
  constructor <;> linarith

theorem divRound_antitone {unit a b c : Int} (hu : 0 ≤ unit) (ha : 0 ≤ a) (hb : 0 < b)
    (hle : b ≤ c) : divRound unit a c ≤ divRound unit a b := by
  have hc : 0 < c := by omega
  have hself := (le_divRound_iff unit hc).1 (Int.le_refl (divRound unit a c))
  have hnonneg : 0 ≤ divRound unit a c := divRound_nonneg hu ha (Int.le_of_lt hc)
  have hproduct := Int.mul_nonneg ha hu
  rw [le_divRound_iff unit hb]
  rcases Int.lt_or_eq_of_le hnonneg with hpos | hzero
  · have := Int.mul_le_mul_of_nonneg_left hle (show 0 ≤ 2 * divRound unit a c - 1 by omega)
    omega
  · rw [← hzero]
    omega

theorem divRound_mono {unit a b c : Int} (hu : 0 ≤ unit) (hc : 0 < c) (hle : a ≤ b) :
    divRound unit a c ≤ divRound unit b c := by
  have := Int.mul_le_mul_of_nonneg_right hle hu
  exact Int.ediv_le_ediv hc (by omega)

theorem divRound_mul_le (unit : Int) {b : Int} (hb : 0 < b) (a : Int) :
    (divRound unit a b : ℚ) * b ≤ a * unit + b / 2 := by
  have hle : divRound unit a b * b ≤ a * unit + b / 2 := Int.ediv_mul_le _ (Int.ne_of_gt hb)
  have hcast : ((divRound unit a b * b : Int) : ℚ) ≤ (a * unit + b / 2 : Int) := by
    exact_mod_cast hle
  have hhalf := cast_ediv_le two_pos b
  push_cast at hcast hhalf
  linarith

/-! ## Figures in rays -/

/-- The number that a figure in rays stands for. -/
def ofRay (x : Int) : ℚ := x / ray

theorem cast_ray_pos : (0 : ℚ) < ray := by exact_mod_cast ray_pos

theorem ray_mul_ofRay (x : Int) : ray * ofRay x = x := mul_div_cancel₀ _ cast_ray_pos.ne'

theorem ofRay_ray : ofRay ray = 1 := div_self cast_ray_pos.ne'

theorem ofRay_add (x y : Int) : ofRay (x + y) = ofRay x + ofRay y := by
  rw [ofRay, Int.cast_add, add_div]
  rfl

theorem ofRay_sub (x y : Int) : ofRay (x - y) = ofRay x - ofRay y := by
  rw [ofRay, Int.cast_sub, sub_div]
  rfl

theorem ofRay_le_ofRay {x y : Int} : ofRay x ≤ ofRay y ↔ x ≤ y := by
  rw [ofRay, ofRay, div_le_div_iff_of_pos_right cast_ray_pos, Int.cast_le]

theorem ofRay_nonneg {x : Int} (h : 0 ≤ x) : 0 ≤ ofRay x :=
  div_nonneg (by exact_mod_cast h) cast_ray_pos.le

theorem ofRay_pos {x : Int} (h : 0 < x) : 0 < ofRay x :=
  div_pos (by exact_mod_cast h) cast_ray_pos

theorem ofRay_le_one {x : Int} (h : x ≤ ray) : ofRay x ≤ 1 := by
  rwa [← ofRay_ray, ofRay_le_ofRay]

theorem ofRay_near {x : Int} {y e : ℚ} (h : |(x : ℚ) - ray * y| ≤ e) : |ofRay x - y| ≤ e / ray := by
  have hray := cast_ray_pos
  have hscaled : ofRay x - y = (x - ray * y) / ray := by
    rw [ofRay]
    field_simp
  rw [hscaled, abs_div, abs_of_pos hray]
  exact div_le_div_of_nonneg_right h hray.le

theorem scaled_near {c x y e : ℚ} (hc : 0 ≤ c) (h : |x - y| ≤ e) : |c * x - c * y| ≤ c * e := by
  rw [← mul_sub, abs_mul, abs_of_nonneg hc]
  exact mul_le_mul_of_nonneg_left h hc

theorem rayRound_near (a b : Int) : |(mulRound ray halfRay a b : ℚ) - a * ofRay b| ≤ 1 / 2 := by
  have hbelow := lt_rayRound a b
  have habove := rayRound_le a b
  rw [ofRay, ← mul_div_assoc, abs_le]
  constructor <;> linarith

theorem ofRay_mul_near (a b : Int) : |(mulRound ray halfRay a b : ℚ) - ofRay a * b| ≤ 1 / 2 := by
  rw [mulRound_comm, mul_comm]
  exact rayRound_near b a

theorem rayQuotient_near (a : Int) {b : Int} (hb : 0 < b) :
    |(divRound ray a b : ℚ) - a / ofRay b| ≤ 1 / 2 := by
  have hpos : (0 : ℚ) < b := by exact_mod_cast hb
  obtain ⟨habove, hbelow⟩ := rayQuotient_bounds a hb
  have habove' : 2 * ((divRound ray a b : ℚ) * b) ≤ 2 * (a * ray) + b := by exact_mod_cast habove
  have hbelow' : 2 * ((a : ℚ) * ray) < 2 * (divRound ray a b * b) + b := by exact_mod_cast hbelow
  have hexact : (divRound ray a b : ℚ) - a / ofRay b = (divRound ray a b * b - a * ray) / b := by
    rw [ofRay]
    field_simp
  rw [hexact, abs_div, abs_of_pos hpos, div_le_iff₀ hpos, abs_le]
  constructor <;> linarith

end MoneyMarket.FixedPoint
