import MoneyMarket.Proofs.Rates.Served

/-!
# What the governed strategy promises suppliers

Suppliers earn a different formula than the share of what borrowers pay. Without rounding the two
differ by `q · u · (m · (1 - u / (1 - η)) - a · η)`: below a lent share of `1 - η` the slope can
promise suppliers more than borrowers bring, above it never. All roundings together move the
difference by a few units.
-/

namespace MoneyMarket

open FixedPoint

/-! ## Rounding in the two formulas -/

section Roundings

variable {a m q u k s rest rise steep calm shock rate : ℚ}

theorem earned_near (hu : 0 ≤ u) (hu1 : u ≤ 1) (hk : 0 ≤ k) (hkq : k ≤ q) (hq : q ≤ 1)
    (hrise : |rise - m * u| ≤ 1 / 2) (hcalm : |calm - (1 - q) * (a + rise)| ≤ 1 / 2)
    (hsteep : |steep - m / rest| ≤ 1 / 2) (hshock : |shock - k * (a + steep)| ≤ 1 / 2)
    (hrate : |rate - u * (calm + shock)| ≤ 1 / 2) :
    |rate - u * ((1 - q) * (a + m * u) + k * (a + m / rest))| ≤ 2 := by
  have hrise' := scaled_near (show 0 ≤ 1 - q by linarith) hrise
  have hsteep' := scaled_near hk hsteep
  have hinner : |(calm + shock) - ((1 - q) * (a + m * u) + k * (a + m / rest))| ≤ 3 / 2 := by
    rw [abs_le] at *
    constructor <;> linarith
  have houter := scaled_near hu hinner
  rw [abs_le] at *
  constructor <;> linarith

theorem charged_near (hu : 0 ≤ u) (hu1 : u ≤ 1) (hsteep : |steep - m * (1 + s)| ≤ 1 / 2)
    (hrise : |rise - steep * u| ≤ 1 / 2) (hrate : |rate - (a + rise) * u| ≤ 1 / 2) :
    |rate - u * (a + m * (1 + s) * u)| ≤ 3 / 2 := by
  have hsteep' := scaled_near hu hsteep
  have hinner : |(a + rise) - (a + m * (1 + s) * u)| ≤ 1 := by
    rw [abs_le] at *
    constructor <;> linarith
  have houter := scaled_near hu hinner
  rw [abs_le] at *
  constructor <;> linarith

end Roundings

/-! ## The difference of the two formulas

Here `rest` stands for `1 - η`, and `k` and `s` for `q · (1 - η)` and `η · q / (1 - η)` as they are
rounded, to a multiple of `unit`. -/

section Difference

variable {a m q u k s t rest unit : ℚ}

/-- Suppliers' formula less that of borrowers. -/
def formulaGap (a m q u k s rest : ℚ) : ℚ :=
  u * ((1 - q) * (a + m * u) + k * (a + m / rest)) - u * (a + m * (1 + s) * u)

/-- The same without rounding. -/
def exactGap (a m q u rest : ℚ) : ℚ := q * u * (m * (1 - u / rest) - a * (1 - rest))

theorem formulaGap_near (ha : 0 ≤ a) (hm : 0 ≤ m) (hu : 0 ≤ u) (hrest : 0 < rest)
    (hk : |k - q * rest| ≤ unit / 2)
    (hs : |s - (1 - rest) * q / rest| ≤ unit / 2 * (1 + 1 / rest)) :
    |formulaGap a m q u k s rest - exactGap a m q u rest| ≤
      unit / 2 * (a * u + m * (u / rest + u * u + u * (u / rest))) := by
  have hsplit : formulaGap a m q u k s rest - exactGap a m q u rest =
      ((a * u + m * (u / rest)) * k - (a * u + m * (u / rest)) * (q * rest)) -
        (m * u * u * s - m * u * u * ((1 - rest) * q / rest)) := by
    unfold formulaGap exactGap
    field_simp
    ring
  have hk' := scaled_near (show 0 ≤ a * u + m * (u / rest) by positivity) hk
  have hs' := scaled_near (show 0 ≤ m * u * u by positivity) hs
  rw [hsplit]
  refine le_trans (abs_sub _ _) (le_trans (add_le_add hk' hs') (le_of_eq ?_))
  field_simp
  ring

theorem formulaGap_error_le (ha : 0 ≤ a) (hm : 0 ≤ m) (hu : 0 ≤ u) (hu1 : u ≤ 1)
    (hunit : 0 ≤ unit) (hrest : 0 < rest) (hlent : u ≤ rest) :
    unit / 2 * (a * u + m * (u / rest + u * u + u * (u / rest))) ≤ unit / 2 * (a + 4 * m) := by
  have hratio : u / rest ≤ 1 := (div_le_one hrest).2 hlent
  have hsquare : u * u ≤ 1 := mul_le_one₀ hu1 hu hu1
  have hboth : u * (u / rest) ≤ 1 := mul_le_one₀ hu1 (div_nonneg hu hrest.le) hratio
  have ha' : a * u ≤ a := mul_le_of_le_one_right ha hu1
  have hm' := mul_le_mul_of_nonneg_left
    (show u / rest + u * u + u * (u / rest) ≤ 4 by linarith) hm
  exact mul_le_mul_of_nonneg_left (by linarith) (by linarith)

/-- Where more is lent than `1 - η` the slope costs borrowers more than it brings suppliers. -/
theorem exactGap_le_of_lent (ha : 0 ≤ a) (hm : 0 ≤ m) (hq : 0 ≤ q) (hrest : 0 < rest)
    (hrest1 : rest ≤ 1) (ht : 1 ≤ t) (hwhole : unit / 2 ≤ q * rest) :
    exactGap a m q (rest * t) rest ≤ unit / 2 * (t * (1 - t)) * m := by
  have hgap : exactGap a m q (rest * t) rest =
      q * rest * (t * (1 - t)) * m - q * (rest * t) * a * (1 - rest) := by
    unfold exactGap
    field_simp
  have hintercept : 0 ≤ q * (rest * t) * a * (1 - rest) :=
    mul_nonneg (by positivity) (by linarith)
  have hslope : q * rest * (t * (1 - t)) ≤ unit / 2 * (t * (1 - t)) :=
    mul_le_mul_of_nonpos_right hwhole (mul_nonpos_of_nonneg_of_nonpos (by linarith) (by linarith))
  have hslope' := mul_le_mul_of_nonneg_right hslope hm
  rw [hgap]
  linarith

theorem formulaGap_le_of_lent (ha : 0 ≤ a) (hm : 0 ≤ m) (hq : 0 ≤ q) (hu : 0 ≤ u) (hu1 : u ≤ 1)
    (hs0 : 0 ≤ s) (hunit : 0 ≤ unit) (hrest : 0 < rest) (hrest1 : rest ≤ 1) (hlent : rest ≤ u)
    (hk : |k - q * rest| ≤ unit / 2)
    (hs : |s - (1 - rest) * q / rest| ≤ unit / 2 * (1 + 1 / rest))
    (hwhole : k = 0 ∨ unit / 2 ≤ q * rest) :
    formulaGap a m q u k s rest ≤ unit / 2 * (a + 4 * m) := by
  rcases hwhole with rfl | hwhole
  · -- without a share suppliers gain nothing from a shock
    have hloss : formulaGap a m q u 0 s rest = -(u * (q * a + m * (q * u + s * u))) := by
      unfold formulaGap
      ring
    have : 0 ≤ u * (q * a + m * (q * u + s * u)) := by positivity
    have : 0 ≤ unit / 2 * (a + 4 * m) := by positivity
    linarith
  · -- a share of half a unit or more makes the loss on the slope outweigh the roundings, which are
    -- magnified by how many times the share left over is lent
    obtain ⟨t, rfl⟩ : ∃ t, u = rest * t := ⟨u / rest, by field_simp⟩
    have ht : 1 ≤ t := le_of_mul_le_mul_left (by linarith) hrest
    have hnear := (abs_le.1 (formulaGap_near ha hm hu hrest hk hs)).2
    have hratio : rest * t / rest = t := by field_simp
    rw [hratio] at hnear
    have hexact := exactGap_le_of_lent ha hm hq hrest hrest1 ht hwhole
    have hsquare : rest * t * (rest * t) ≤ 1 := mul_le_one₀ hu1 hu hu1
    have hboth : rest * t * t ≤ t := mul_le_of_le_one_left (by linarith) hu1
    have hslope : t * (1 - t) + (t + rest * t * (rest * t) + rest * t * t) ≤ 4 := by
      nlinarith only [hsquare, hboth, sq_nonneg (2 * t - 3)]
    have hm' := mul_le_mul_of_nonneg_left hslope hm
    have ha' : a * (rest * t) ≤ a := mul_le_of_le_one_right ha hu1
    have hall := mul_le_mul_of_nonneg_left (add_le_add ha' hm') (show 0 ≤ unit / 2 by linarith)
    linarith

end Difference

/-! ## The promise -/

namespace Governed

variable {g : Governed} {eta u : Int}

/-- What suppliers are promised above what borrowers pay, without rounding. -/
def surplus (g : Governed) (eta u : Int) : ℚ :=
  exactGap g.intercept g.slope (ofRay g.shockProbability) (ofRay u) (ofRay (ray - eta))

/-- How far roundings can move it. -/
def slack (g : Governed) : ℚ := 7 / 2 + (g.intercept + 4 * g.slope) / (2 * ray)

/-- The weight of a shock in what suppliers earn, as it is rounded. -/
def shockShare (g : Governed) (eta : Int) : Int :=
  mulRound ray halfRay g.shockProbability (ray - eta)

/-- What borrowers pay for the chance of a shock, as it is rounded. -/
def surcharge (g : Governed) (eta : Int) : Int :=
  divRound ray (mulRound ray halfRay eta g.shockProbability) (ray - eta)

/-- What suppliers are promised above what borrowers pay, with only these two rounded. -/
def gap (g : Governed) (eta u : Int) : ℚ :=
  formulaGap g.intercept g.slope (ofRay g.shockProbability) (ofRay u) (ofRay (g.shockShare eta))
    (ofRay (g.surcharge eta)) (ofRay (ray - eta))

theorem shockShare_nonneg (hbelow : eta < ray) : 0 ≤ g.shockShare eta :=
  rayRound_nonneg g.shockProbability_nonneg (by omega)

theorem shockShare_le (heta : 0 ≤ eta) : g.shockShare eta ≤ g.shockProbability := by
  have hle : g.shockShare eta ≤ mulRound ray halfRay g.shockProbability ray :=
    rayRound_mono g.shockProbability_nonneg (by omega)
  rwa [rayRound_by_one] at hle

theorem shockShare_near (g : Governed) (eta : Int) : |ofRay (g.shockShare eta) -
    ofRay g.shockProbability * ofRay (ray - eta)| ≤ 1 / ray / 2 := by
  have hround := rayRound_near g.shockProbability (ray - eta)
  rw [← ray_mul_ofRay g.shockProbability, mul_assoc] at hround
  exact le_trans (ofRay_near hround) (le_of_eq (by ring))

theorem shockShare_whole (hbelow : eta < ray) : ofRay (g.shockShare eta) = 0 ∨
    1 / (ray : ℚ) / 2 ≤ ofRay g.shockProbability * ofRay (ray - eta) := by
  rcases (shockShare_nonneg (g := g) hbelow).eq_or_lt with hzero | hpos
  · rw [← hzero]
    exact .inl (by norm_num [ofRay])
  · right
    have hunit : 1 / (ray : ℚ) ≤ ofRay (g.shockShare eta) := by
      have hone : ofRay 1 ≤ ofRay (g.shockShare eta) := ofRay_le_ofRay.2 hpos
      simpa [ofRay] using hone
    have hnear := (abs_le.1 (shockShare_near g eta)).2
    linarith

theorem surcharge_nonneg (heta : 0 ≤ eta) (hbelow : eta < ray) : 0 ≤ g.surcharge eta :=
  divRound_nonneg (by decide) (rayRound_nonneg heta g.shockProbability_nonneg) (by omega)

theorem surcharge_near (hbelow : eta < ray) : |ofRay (g.surcharge eta) -
    (1 - ofRay (ray - eta)) * ofRay g.shockProbability / ofRay (ray - eta)| ≤
      1 / ray / 2 * (1 + 1 / ofRay (ray - eta)) := by
  have hrest : 0 < ofRay (ray - eta) := ofRay_pos (by omega)
  have heta : (eta : ℚ) = ray * (1 - ofRay (ray - eta)) := by
    rw [ofRay_sub, ofRay_ray, sub_sub_cancel, ray_mul_ofRay]
  have hquotient := rayQuotient_near (mulRound ray halfRay eta g.shockProbability)
    (show 0 < ray - eta by omega)
  have hproduct := scaled_near (show 0 ≤ 1 / ofRay (ray - eta) by positivity)
    (rayRound_near eta g.shockProbability)
  have hround : |(g.surcharge eta : ℚ) -
      ray * ((1 - ofRay (ray - eta)) * ofRay g.shockProbability / ofRay (ray - eta))| ≤
        1 / 2 + 1 / ofRay (ray - eta) * (1 / 2) := by
    have hsplit : (g.surcharge eta : ℚ) -
        ray * ((1 - ofRay (ray - eta)) * ofRay g.shockProbability / ofRay (ray - eta)) =
          (g.surcharge eta - mulRound ray halfRay eta g.shockProbability / ofRay (ray - eta)) +
            (1 / ofRay (ray - eta) * mulRound ray halfRay eta g.shockProbability -
              1 / ofRay (ray - eta) * (eta * ofRay g.shockProbability)) := by
      rw [heta]
      ring
    rw [hsplit]
    exact le_trans (abs_add_le _ _) (add_le_add hquotient hproduct)
  exact le_trans (ofRay_near hround) (le_of_eq (by ring))

theorem earned_error {rate : Int} (hq : g.shockProbability ≤ ray) (heta : 0 ≤ eta)
    (hbelow : eta < ray) (hu : 0 ≤ u) (hu1 : u ≤ ray) (h : g.liquidityRate eta u = .ok rate) :
    |(rate : ℚ) - ofRay u * ((1 - ofRay g.shockProbability) * (g.intercept + g.slope * ofRay u) +
      ofRay (g.shockShare eta) * (g.intercept + g.slope / ofRay (ray - eta)))| ≤ 2 := by
  simp only [liquidityRate, bind_ok_iff, rayMul_ok_iff, rayDiv_ok_iff] at h
  obtain ⟨rise, ⟨-, -, hrise⟩, calm, ⟨-, -, hcalm⟩, kept, ⟨-, -, rfl⟩, steep, ⟨-, hrest, hsteep⟩,
    shock, ⟨-, -, hshock⟩, -, -, hrate⟩ := h
  have hrise' : |(rise : ℚ) - g.slope * ofRay u| ≤ 1 / 2 := hrise ▸ rayRound_near _ _
  have hsteep' : |(steep : ℚ) - g.slope / ofRay (ray - eta)| ≤ 1 / 2 :=
    hsteep ▸ rayQuotient_near _ hrest
  have hcalm' := ofRay_mul_near (ray - g.shockProbability) (g.intercept + rise)
  have hshock' := ofRay_mul_near (g.shockShare eta) (g.intercept + steep)
  have hrate' := ofRay_mul_near u (calm + shock)
  rw [ofRay_sub, ofRay_ray, hcalm] at hcalm'
  rw [shockShare, hshock] at hshock'
  rw [hrate] at hrate'
  push_cast at hcalm' hshock' hrate'
  exact earned_near (ofRay_nonneg hu) (ofRay_le_one hu1) (ofRay_nonneg (shockShare_nonneg hbelow))
    (ofRay_le_ofRay.2 (shockShare_le heta)) (ofRay_le_one hq) hrise' hcalm' hsteep' hshock' hrate'

theorem charged_error {rate paid : Int} (hu : 0 ≤ u) (hu1 : u ≤ ray)
    (h : g.variableRate eta u = .ok rate) (hpaid : rayMul rate u = .ok paid) :
    |(paid : ℚ) - ofRay u * (g.intercept + g.slope * (1 + ofRay (g.surcharge eta)) * ofRay u)| ≤
      3 / 2 := by
  simp only [variableRate, bind_ok_iff, rayMul_ok_iff, rayDiv_ok_iff, pure_ok_iff] at h
  obtain ⟨_, ⟨-, -, rfl⟩, _, ⟨-, -, rfl⟩, steep, ⟨-, -, hsteep⟩, rise, ⟨-, -, hrise⟩, rfl⟩ := h
  obtain ⟨-, -, hpaid⟩ := rayMul_ok_iff.1 hpaid
  have hsteep' := rayRound_near g.slope (ray + g.surcharge eta)
  have hrise' : |(rise : ℚ) - steep * ofRay u| ≤ 1 / 2 := hrise ▸ rayRound_near _ _
  have hpaid' := rayRound_near (g.intercept + rise) u
  rw [ofRay_add, ofRay_ray, surcharge, hsteep] at hsteep'
  rw [hpaid] at hpaid'
  push_cast at hpaid'
  exact charged_near (ofRay_nonneg hu) (ofRay_le_one hu1) hsteep' hrise' hpaid'

/-- Both rates are computed, and the other roundings move the gap between them by a few halves. -/
theorem promise_near (hq : g.shockProbability ≤ ray) (heta : 0 ≤ eta) (hbelow : eta < ray)
    (hu : 0 ≤ u) (hu1 : u ≤ ray) : ∃ liquidityRate variableRate paid,
      g.liquidityRate eta u = .ok liquidityRate ∧ g.variableRate eta u = .ok variableRate ∧
      rayMul variableRate u = .ok paid ∧
      |(liquidityRate - paid : ℚ) - g.gap eta u| ≤ 7 / 2 := by
  obtain ⟨liquidityRate, hliquidity, -⟩ := liquidityRate_total (g := g) hq hbelow hu
  obtain ⟨variableRate, hvariable, hpays⟩ := variableRate_total (g := g) heta hbelow hu
  obtain ⟨paid, hpaid, -⟩ := rayMul_total hpays hu
  refine ⟨liquidityRate, variableRate, paid, hliquidity, hvariable, hpaid, ?_⟩
  have hearned := earned_error hq heta hbelow hu hu1 hliquidity
  have hcharged := charged_error hu hu1 hvariable hpaid
  unfold gap formulaGap
  rw [abs_le] at *
  constructor <;> linarith

theorem intercept_cast_nonneg (g : Governed) : (0 : ℚ) ≤ g.intercept := by
  exact_mod_cast g.intercept_nonneg

theorem slope_cast_nonneg (g : Governed) : (0 : ℚ) ≤ g.slope := by
  exact_mod_cast g.slope_nonneg

theorem gap_near_surplus (hbelow : eta < ray) (hu : 0 ≤ u) (hu1 : u ≤ ray)
    (hlent : u ≤ ray - eta) :
    |g.gap eta u - g.surplus eta u| ≤ 1 / ray / 2 * (g.intercept + 4 * g.slope) := by
  have ha := intercept_cast_nonneg g
  have hm := slope_cast_nonneg g
  have hrest : 0 < ofRay (ray - eta) := ofRay_pos (by omega)
  have herror := formulaGap_error_le ha hm (ofRay_nonneg hu) (ofRay_le_one hu1)
    (one_div_nonneg.2 cast_ray_pos.le) hrest (ofRay_le_ofRay.2 hlent)
  exact le_trans (formulaGap_near ha hm (ofRay_nonneg hu) hrest (shockShare_near g eta)
    (surcharge_near hbelow)) herror

theorem gap_le_of_lent (heta : 0 ≤ eta) (hbelow : eta < ray) (hu : 0 ≤ u) (hu1 : u ≤ ray)
    (hlent : ray - eta ≤ u) : g.gap eta u ≤ 1 / ray / 2 * (g.intercept + 4 * g.slope) :=
  formulaGap_le_of_lent (intercept_cast_nonneg g) (slope_cast_nonneg g)
    (ofRay_nonneg g.shockProbability_nonneg) (ofRay_nonneg hu) (ofRay_le_one hu1)
    (ofRay_nonneg (surcharge_nonneg heta hbelow)) (one_div_nonneg.2 cast_ray_pos.le)
    (ofRay_pos (by omega)) (ofRay_le_one (by omega)) (ofRay_le_ofRay.2 hlent)
    (shockShare_near g eta) (surcharge_near hbelow) (shockShare_whole hbelow)

variable {s : RateInput}

/-- **The promise to suppliers.** The strategy has rates for every state, and suppliers are promised
what borrowers pay on the lent share, and above it no more than the surplus of the two formulas and
the slack of their roundings. While at most the share `1 - η` is lent, the surplus is theirs. -/
theorem promised_le_paid (hg : g.NonNegative) (hq : g.shockProbability ≤ ray)
    (hs : s.NonNegative) (heta : g.modelFactor s.reserveFactor = .ok eta) :
    ∃ rates u paid, g.rates s = .ok rates ∧
      utilization s.availableLiquidity s.totalDebt = .ok u ∧
      rayMul rates.variableBorrowRate u = .ok paid ∧
      (rates.liquidityRate : ℚ) ≤ paid + max 0 (g.surplus eta u) + g.slack ∧
      (u ≤ ray - eta → paid + g.surplus eta u - g.slack ≤ rates.liquidityRate) := by
  obtain ⟨ha, hsd, hvd, hsr, hfactor⟩ := hs
  have hdebt : 0 ≤ s.totalDebt := Int.add_nonneg hsd hvd
  have hanswers : Answers (fun _ => True) (fun eta => 0 ≤ eta ∧ eta < ray)
      (g.modelFactor s.reserveFactor) := modelFactor_answers (fun _ => trivial) hg hfactor
  rw [heta] at hanswers
  obtain ⟨heta0, hbelow⟩ := hanswers
  have hinput : s.requireNonNegative = .ok () :=
    RateInput.requireNonNegative_ok_iff.2 ⟨ha, hsd, hvd, hsr, hfactor⟩
  have hu := utilization_ok ha hdebt
  have hu0 := lentShare_nonneg ha hdebt
  have hu1 := lentShare_le_ray ha hdebt
  generalize lentShare s.availableLiquidity s.totalDebt = u at hu hu0 hu1
  obtain ⟨liquidityRate, variableRate, paid, hliquidity, hvariable, hpaid, hnear⟩ :=
    promise_near hq heta0 hbelow hu0 hu1
  have hrates : g.rates s = .ok ⟨liquidityRate, g.stableRate u, variableRate⟩ := by
    simp only [rates, hinput, heta, hu, hliquidity, hvariable, ok_bind, if_neg (Int.not_lt.2 hq)]
    rfl
  have hslack : g.slack = 7 / 2 + 1 / ray / 2 * (g.intercept + 4 * g.slope) := by
    unfold slack
    ring
  obtain ⟨hlow, hhigh⟩ := abs_le.1 hnear
  refine ⟨_, u, paid, hrates, hu, hpaid, ?_, fun hlent => ?_⟩ <;> rw [hslack]
  · have hnone := le_max_left 0 (g.surplus eta u)
    have hsome := le_max_right 0 (g.surplus eta u)
    rcases Int.le_total u (ray - eta) with hlent | hlent
    · have hgap := (abs_le.1 (gap_near_surplus (g := g) hbelow hu0 hu1 hlent)).2
      linarith
      -- beyond `1 - η` the slope costs borrowers more than it brings suppliers
    · have hgap := gap_le_of_lent (g := g) heta0 hbelow hu0 hu1 hlent
      linarith
  · have hgap := (abs_le.1 (gap_near_surplus (g := g) hbelow hu0 hu1 hlent)).1
    linarith

def standard : Governed where
  toGovernedParams := {}
  intercept_nonneg := by decide
  slope_nonneg := by decide
  shockProbability_nonneg := by decide

def lent (available debt : Int) : RateInput where
  availableLiquidity := available
  totalStableDebt := 0
  totalVariableDebt := debt
  averageStableRate := 0
  reserveFactor := 1000

theorem promised_at_half : ∃ rates u paid, standard.rates (lent 1000 1000) = .ok rates ∧
    utilization 1000 1000 = .ok u ∧ rayMul rates.variableBorrowRate u = .ok paid ∧
    (rates.liquidityRate : ℚ) ≤ paid + max 0 (standard.surplus halfRay u) + standard.slack ∧
    (u ≤ ray - halfRay →
      paid + standard.surplus halfRay u - standard.slack ≤ rates.liquidityRate) :=
  promised_le_paid (by decide) (by decide) (by unfold RateInput.NonNegative; decide) rfl

/-- Rates without an intercept, at which the two formulas agree but for their roundings. -/
def atTheEdge : Governed where
  intercept := 0
  slope := 849642339193826088665611838
  shockProbability := 400000000000000000000000000
  modelReserveFactor := some 1067000000000000001
  intercept_nonneg := by decide
  slope_nonneg := by decide
  shockProbability_nonneg := by decide

/-- With a tenth lent suppliers are promised more than borrowers pay; and roundings alone can make it
three units. -/
theorem promised_above_paid :
    (standard.NonNegative ∧ ∃ rates, standard.rates (lent 9000 1000) = .ok rates ∧
      ∃ u, utilization 9000 1000 = .ok u ∧
        ∃ paid, rayMul rates.variableBorrowRate u = .ok paid ∧
          paid + 10 ^ 23 < rates.liquidityRate) ∧
    (atTheEdge.NonNegative ∧
      ∃ rates, atTheEdge.rates (lent 1067000000000000001 999999998932999999999999999) = .ok rates ∧
        ∃ u, utilization 1067000000000000001 999999998932999999999999999 = .ok u ∧
          atTheEdge.surplus 1067000000000000001 u = 0 ∧
            ∃ paid, rayMul rates.variableBorrowRate u = .ok paid ∧
              rates.liquidityRate = paid + 3) := by
  decide +kernel

end Governed

end MoneyMarket
