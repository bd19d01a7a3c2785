import Mathlib.Tactic.MkIffOfInductiveProp
import MoneyMarket.Rates.Strategy
import MoneyMarket.Proofs.Rounding

/-!
# Rates of the kinked strategy

With parameters that are not negative the strategy gives rates for every state that is not
negative, and suppliers are promised no more than borrowers are charged, up to rounding.
-/

namespace MoneyMarket

open MoneyMarket.FixedPoint

/-! ## Inputs -/

theorem requireInput_ok_iff {name : String} {v : Int} {u : Unit} :
    requireInput name v = .ok u ↔ 0 ≤ v := by
  unfold requireInput
  split
  · rename_i h
    exact ⟨nofun, fun h' => absurd h (by omega)⟩
  · rename_i h
    exact ⟨fun _ => by omega, fun _ => rfl⟩

theorem requireInput_ok (name : String) {v : Int} (h : 0 ≤ v) : requireInput name v = .ok () :=
  requireInput_ok_iff.2 h

theorem RateInput.requireNonNegative_ok_iff {s : RateInput} {u : Unit} :
    s.requireNonNegative = .ok u ↔ s.NonNegative := by
  simp only [RateInput.requireNonNegative, RateInput.NonNegative, bind_ok_iff,
    requireInput_ok_iff, exists_const]

/-! ## Utilization -/

def lentShare (available debt : Int) : Int :=
  if debt = 0 then 0 else divRound ray debt (available + debt)

theorem utilization_ok {available debt : Int} (ha : 0 ≤ available) (hd : 0 ≤ debt) :
    utilization available debt = .ok (lentShare available debt) := by
  simp only [utilization, requireInput_ok _ ha, requireInput_ok _ hd, ok_bind, lentShare]
  split
  · rfl
  · exact divChecked_ok _ _ hd (by omega)

theorem lentShare_nonneg {available debt : Int} (ha : 0 ≤ available) (hd : 0 ≤ debt) :
    0 ≤ lentShare available debt := by
  unfold lentShare
  split
  · exact Int.le_refl 0
  · exact divRound_nonneg (by decide) hd (by omega)

theorem lentShare_le_ray {available debt : Int} (ha : 0 ≤ available) (hd : 0 ≤ debt) :
    lentShare available debt ≤ ray := by
  unfold lentShare
  split
  · decide
  · refine Int.lt_add_one_iff.1 (Int.ediv_lt_of_lt_mul (by omega) ?_)
    have := Int.mul_nonneg (Int.le_of_lt ray_pos) ha
    have hsum : (ray + 1) * (available + debt) = ray * available + debt * ray + (available + debt) := by
      ring
    omega

theorem lentShare_mono {available debt available' debt' : Int} (ha : 0 ≤ available') (hd : 0 ≤ debt)
    (hless : available' ≤ available) (hmore : debt ≤ debt') :
    lentShare available debt ≤ lentShare available' debt' := by
  have hle := lentShare_le_ray (Int.le_trans ha hless) hd
  have hnonneg := lentShare_nonneg ha (Int.le_trans hd hmore)
  rcases Int.lt_or_eq_of_le hd with hpos | hzero
  · have hsome := (le_divRound_iff ray (show 0 < available + debt by omega)).1
      (Int.le_refl (divRound ray debt (available + debt)))
    rw [lentShare, if_neg (Int.ne_of_gt hpos)] at hle ⊢
    generalize divRound ray debt (available + debt) = n at hle hsome ⊢
    rcases Int.lt_or_le 0 n with hn | hn
    · rw [lentShare, if_neg (by omega), le_divRound_iff ray (by omega)]
      -- `n` is a share of no more than all: what debt adds to it outweighs what it takes of the sum
      have hmoney := Int.mul_le_mul_of_nonneg_left hless (show 0 ≤ 2 * n - 1 by omega)
      have hdebt := Int.mul_le_mul_of_nonneg_right hmore (show 0 ≤ 2 * ray - (2 * n - 1) by omega)
      linarith
    · exact Int.le_trans hn hnonneg
  · rw [← hzero, lentShare, if_pos rfl]
    exact hnonneg

/-! ## Borrow rates -/

def averageRate (stableDebt variableDebt variableRate stableRate : Int) : Int :=
  if stableDebt + variableDebt = 0 then 0
  else divRound ray (mulRound ray halfRay (variableDebt * raysPerWad) variableRate +
    mulRound ray halfRay (stableDebt * raysPerWad) stableRate)
      ((stableDebt + variableDebt) * raysPerWad)

section Average

variable {stableDebt variableDebt variableRate stableRate : Int} (hs : 0 ≤ stableDebt)
  (hv : 0 ≤ variableDebt) (hvr : 0 ≤ variableRate) (hsr : 0 ≤ stableRate)
include hs hv hvr hsr

theorem overallBorrowRate_ok : overallBorrowRate stableDebt variableDebt variableRate stableRate =
    .ok (averageRate stableDebt variableDebt variableRate stableRate) := by
  have hsum : 0 ≤ stableDebt + variableDebt := by omega
  have hsw : 0 ≤ stableDebt * raysPerWad := Int.mul_nonneg hs (by decide)
  have hvw : 0 ≤ variableDebt * raysPerWad := Int.mul_nonneg hv (by decide)
  simp only [overallBorrowRate, wadToRay_ok hs, wadToRay_ok hv, wadToRay_ok hsum, ok_bind, rayMul,
    mulChecked_ok _ _ hvw hvr, mulChecked_ok _ _ hsw hsr, averageRate]
  split
  · rfl
  · refine divChecked_ok _ _ (Int.add_nonneg ?_ ?_) (Int.mul_pos (by omega) (by decide))
    · exact rayRound_nonneg hvw hvr
    · exact rayRound_nonneg hsw hsr

theorem averageRate_nonneg : 0 ≤ averageRate stableDebt variableDebt variableRate stableRate := by
  unfold averageRate
  split
  · exact Int.le_refl 0
  · have hsw : 0 ≤ stableDebt * raysPerWad := Int.mul_nonneg hs (by decide)
    have hvw : 0 ≤ variableDebt * raysPerWad := Int.mul_nonneg hv (by decide)
    refine divRound_nonneg (by decide) (Int.add_nonneg ?_ ?_) (Int.mul_nonneg (by omega) (by decide))
    · exact rayRound_nonneg hvw hvr
    · exact rayRound_nonneg hsw hsr

end Average

namespace Kinked

/-- The slopes and bases are not negative either. -/
@[mk_iff]
structure NonNegative (k : Kinked) : Prop where
  baseVariableRate : 0 ≤ k.baseVariableRate
  variableSlope1 : 0 ≤ k.variableSlope1
  variableSlope2 : 0 ≤ k.variableSlope2
  stableSlope1 : 0 ≤ k.stableSlope1
  stableSlope2 : 0 ≤ k.stableSlope2
  baseStableRate : 0 ≤ k.baseStableRate

instance (k : Kinked) : Decidable k.NonNegative := decidable_of_iff' _ (nonNegative_iff k)

variable {k : Kinked} {u : Int}

/-- How far a rate has risen along `slope` at a utilization below the kink. -/
def rise (k : Kinked) (slope u : Int) : Int :=
  divRound ray (mulRound ray halfRay u slope) k.optimalUtilization

/-- How much of the way from the kink to full utilization has been gone. -/
def excess (k : Kinked) (u : Int) : Int :=
  divRound ray (u - k.optimalUtilization) (ray - k.optimalUtilization)

def variableAt (k : Kinked) (u : Int) : Int :=
  if k.optimalUtilization < u then
    k.baseVariableRate + k.variableSlope1 + mulRound ray halfRay k.variableSlope2 (k.excess u)
  else k.baseVariableRate + k.rise k.variableSlope1 u

def stableAt (k : Kinked) (u : Int) : Int :=
  if k.optimalUtilization < u then k.baseStableRate + (k.stableSlope1 + k.stableSlope2)
  else k.baseStableRate + k.rise k.stableSlope1 u

theorem rise_zero (k : Kinked) (slope : Int) : k.rise slope 0 = 0 := by
  have := k.optimal_nonneg
  rw [rise, rayRound_zero, divRound, Int.zero_mul, Int.zero_add]
  rcases Int.lt_or_eq_of_le this with hpos | hzero
  · exact Int.ediv_eq_zero_of_lt (by omega) (by omega)
  · rw [← hzero, Int.ediv_zero]

theorem rise_nonneg (hu : 0 ≤ u) {slope : Int} (hslope : 0 ≤ slope) : 0 ≤ k.rise slope u :=
  divRound_nonneg (by decide) (rayRound_nonneg hu hslope) k.optimal_nonneg

theorem rise_ok (hu : 0 ≤ u) (hk : 0 < k.optimalUtilization) {slope : Int} (hslope : 0 ≤ slope) :
    (do rayDiv (← rayMul u slope) k.optimalUtilization) = .ok (k.rise slope u) := by
  rw [rayMul, mulChecked_ok _ _ hu hslope, ok_bind]
  exact divChecked_ok _ _ (rayRound_nonneg hu hslope) hk

theorem excess_nonneg (habove : k.optimalUtilization ≤ u) : 0 ≤ k.excess u := by
  have hray := k.optimal_le_ray
  exact divRound_nonneg (by decide) (show 0 ≤ u - k.optimalUtilization by omega) (by omega)

theorem borrowRates_eq (hk : k.NonNegative) (hu : 0 ≤ u) (hray : u ≤ ray) :
    k.borrowRates u = .ok (k.variableAt u, k.stableAt u) := by
  unfold borrowRates variableAt stableAt
  split
  · rename_i habove
    have hbelow : 0 < ray - k.optimalUtilization := by omega
    have hover : 0 ≤ u - k.optimalUtilization := by omega
    have hexcess : 0 ≤ divRound ray (u - k.optimalUtilization) (ray - k.optimalUtilization) :=
      excess_nonneg (Int.le_of_lt habove)
    simp only [rayDiv, rayMul, divChecked_ok _ _ hover hbelow, ok_bind,
      mulChecked_ok _ _ hk.variableSlope2 hexcess]
    rfl
  · rename_i hbelow
    split
    · rename_i hzero
      rw [hzero, rise_zero, rise_zero, Int.add_zero, Int.add_zero]
      rfl
    · rename_i hzero
      have hoptimal : 0 < k.optimalUtilization := by omega
      have hv := rise_ok hu hoptimal hk.variableSlope1
      have hs := rise_ok hu hoptimal hk.stableSlope1
      simp only [bind_ok_iff] at hv hs
      obtain ⟨_, hv₁, hv₂⟩ := hv
      obtain ⟨_, hs₁, hs₂⟩ := hs
      simp only [hv₁, hv₂, hs₁, hs₂, ok_bind]
      rfl

theorem variableAt_nonneg (hk : k.NonNegative) (hu : 0 ≤ u) : 0 ≤ k.variableAt u := by
  have hbase := hk.baseVariableRate
  unfold variableAt
  split
  · rename_i habove
    have hslope := hk.variableSlope1
    have hrise := rayRound_nonneg hk.variableSlope2 (excess_nonneg (Int.le_of_lt habove))
    omega
  · have hrise := rise_nonneg (k := k) hu hk.variableSlope1
    omega

theorem stableAt_nonneg (hk : k.NonNegative) (hu : 0 ≤ u) : 0 ≤ k.stableAt u := by
  have hbase := hk.baseStableRate
  have hslope₁ := hk.stableSlope1
  have hslope₂ := hk.stableSlope2
  have hrise := rise_nonneg (k := k) hu hslope₁
  unfold stableAt
  split <;> omega

/-- What suppliers earn when borrowers pay `variableRate` on variable debt. -/
def supplyRate (s : RateInput) (variableRate : Int) : Int :=
  mulRound whole halfWhole
    (mulRound ray halfRay
      (averageRate s.totalStableDebt s.totalVariableDebt variableRate s.averageStableRate)
      (lentShare s.availableLiquidity s.totalDebt))
    (whole - s.reserveFactor)

theorem supplyRate_nonneg {s : RateInput} (hs : s.NonNegative) (hf : s.reserveFactor ≤ whole)
    {variableRate : Int} (hv : 0 ≤ variableRate) : 0 ≤ supplyRate s variableRate := by
  obtain ⟨ha, hsd, hvd, hsr, _⟩ := hs
  have hu := lentShare_nonneg ha (show 0 ≤ s.totalDebt from Int.add_nonneg hsd hvd)
  have haverage := averageRate_nonneg hsd hvd hv hsr
  have hgross := rayRound_nonneg haverage hu
  exact percentRound_nonneg hgross (by omega)

theorem rates_eq {s : RateInput} (hk : k.NonNegative) (hs : s.NonNegative)
    (hf : s.reserveFactor ≤ whole) :
    k.rates s =
      let u := lentShare s.availableLiquidity s.totalDebt
      .ok ⟨supplyRate s (k.variableAt u), k.stableAt u, k.variableAt u⟩ := by
  obtain ⟨ha, hsd, hvd, hsr, hf0⟩ := hs
  have hdebt : 0 ≤ s.totalDebt := Int.add_nonneg hsd hvd
  have hu := lentShare_nonneg ha hdebt
  have haverage := averageRate_nonneg hsd hvd (variableAt_nonneg hk hu) hsr
  have hgross := rayRound_nonneg haverage hu
  have hkept : 0 ≤ whole - s.reserveFactor := by omega
  have hinput : s.requireNonNegative = .ok () :=
    RateInput.requireNonNegative_ok_iff.2 ⟨ha, hsd, hvd, hsr, hf0⟩
  simp only [rates, hinput, utilization_ok ha hdebt,
    borrowRates_eq hk hu (lentShare_le_ray ha hdebt),
    overallBorrowRate_ok hsd hvd (variableAt_nonneg hk hu) hsr,
    ok_bind, rayMul, percentMul, mulChecked_ok _ _ haverage hu, mulChecked_ok _ _ hgross hkept,
    if_neg (Int.not_lt.2 hf)]
  rfl

theorem rates_ok {s : RateInput} (hk : k.NonNegative) (hs : s.NonNegative)
    (hf : s.reserveFactor ≤ whole) : ∃ variableRate stableRate, 0 ≤ variableRate ∧
      0 ≤ stableRate ∧ k.rates s = .ok ⟨supplyRate s variableRate, stableRate, variableRate⟩ := by
  have hu := lentShare_nonneg hs.1 (show 0 ≤ s.totalDebt from Int.add_nonneg hs.2.1 hs.2.2.1)
  exact ⟨_, _, variableAt_nonneg hk hu, stableAt_nonneg hk hu, rates_eq hk hs hf⟩

theorem rates_input {s : RateInput} {rates : InterestRates} (h : k.rates s = .ok rates) :
    s.NonNegative ∧ s.reserveFactor ≤ whole := by
  unfold Kinked.rates at h
  rw [bind_ok_iff] at h
  obtain ⟨_, hs, h⟩ := h
  refine ⟨RateInput.requireNonNegative_ok_iff.1 hs, ?_⟩
  by_contra hf
  rw [if_pos (by omega), bind_ok_iff] at h
  obtain ⟨_, h, _⟩ := h
  exact throw_ne_ok h

theorem rates_liquidityRate {s : RateInput} {rates : InterestRates} (h : k.rates s = .ok rates) :
    0 ≤ rates.liquidityRate := by
  unfold Kinked.rates at h
  split at h
  · simp only [bind_ok_iff] at h
    obtain ⟨_, _, _, h, _⟩ := h
    exact absurd h throw_ne_ok
  · simp only [bind_ok_iff, pure_ok_iff] at h
    obtain ⟨_, _, _, _, ⟨_, _⟩, _, _, _, _, _, _, hrate, rfl⟩ := h
    exact percentMul_nonneg hrate

/-! ## Supply and borrow rates -/

end Kinked

/-- Without stable debt the average is the variable rate, up to rounding. -/
theorem averageRate_mul_le {debt : Int} (hd : 0 < debt) (rate stableRate : Int) :
    (averageRate 0 debt rate stableRate : ℚ) * debt ≤ debt * rate + 5 * 10 ^ 17 + debt / 2 := by
  have hne : ¬ 0 + debt = 0 := by omega
  have hpos : 0 < (0 + debt) * raysPerWad := Int.mul_pos (by omega) (by decide)
  have hw := rayRound_le (debt * raysPerWad) rate
  have ho := divRound_mul_le ray hpos
    (mulRound ray halfRay (debt * raysPerWad) rate + 0)
  have hzero : mulRound ray halfRay (0 * raysPerWad) stableRate = 0 := rayRound_zero _
  rw [averageRate, if_neg hne, hzero]
  push_cast [cast_ray, cast_raysPerWad] at hw ho ⊢
  linarith

theorem lentShare_mul_le {available debt : Int} (ha : 0 ≤ available) (hd : 0 < debt) :
    ((available : ℚ) + debt) * lentShare available debt ≤
      debt * 10 ^ 27 + (available + debt) / 2 := by
  have h := divRound_mul_le ray (show 0 < available + debt by omega) debt
  rw [lentShare, if_neg (by omega)]
  push_cast [cast_ray] at h
  linarith

theorem grossRate_mul_le {available debt rate : Int} (ha : 0 ≤ available) (hd : 0 < debt)
    (hrate : 0 ≤ rate) {stableRate : Int} (hs : 0 ≤ stableRate) :
    ((available : ℚ) + debt) * mulRound ray halfRay (averageRate 0 debt rate stableRate)
        (lentShare available debt) ≤
      debt * rate + 5 * 10 ^ 17 + (available + debt) * (3 / 2 + rate / 10 ^ 27) := by
  have hu := lentShare_mul_le ha hd
  have ho := averageRate_mul_le hd rate stableRate
  have hoi := averageRate_nonneg (Int.le_refl 0) (Int.le_of_lt hd) hrate hs
  have hround := rayRound_le (averageRate 0 debt rate stableRate) (lentShare available debt)
  generalize averageRate 0 debt rate stableRate = o at hround ho hoi ⊢
  generalize lentShare available debt = u at hu hround ⊢
  rw [cast_ray] at hround
  have hav : (0 : ℚ) ≤ available := by exact_mod_cast ha
  have hdebt : (1 : ℚ) ≤ debt := by exact_mod_cast hd
  have hnonneg : (0 : ℚ) ≤ o := by exact_mod_cast hoi
  have hlarge : (o : ℚ) ≤ rate + 5 * 10 ^ 17 + 1 / 2 := by
    refine le_of_mul_le_mul_right (le_trans ho ?_) (lt_of_lt_of_le one_pos hdebt)
    linarith
  have hlent : (o : ℚ) * ((available + debt) * u) ≤ o * (debt * 10 ^ 27 + (available + debt) / 2) :=
    mul_le_mul_of_nonneg_left hu hnonneg
  have hrest := mul_le_mul_of_nonneg_right hlarge (show (0 : ℚ) ≤ available + debt by linarith)
  have hgross := mul_le_mul_of_nonneg_left hround (show (0 : ℚ) ≤ available + debt by linarith)
  have hrate' : (0 : ℚ) ≤ (available + debt) * rate :=
    mul_nonneg (by linarith) (by exact_mod_cast hrate)
  linarith

namespace Kinked

/-- Without stable debt, suppliers earn on all money at most what borrowers pay on their debt, less
the reserve factor. -/
theorem supplyRate_mul_le {s : RateInput} (hs : s.NonNegative) (hf : s.reserveFactor ≤ whole)
    (hstable : s.totalStableDebt = 0) {rate : Int} (hrate : 0 ≤ rate) :
    ((s.availableLiquidity : ℚ) + s.totalVariableDebt) * supplyRate s rate ≤
      (1 - s.reserveFactor / 10000) * (s.totalVariableDebt * rate) + 5 * 10 ^ 17 +
        (s.availableLiquidity + s.totalVariableDebt) * (2 + rate / 10 ^ 27) := by
  obtain ⟨ha, _, hd, hsr, hf0⟩ := hs
  have hdebt : s.totalDebt = s.totalVariableDebt := by rw [RateInput.totalDebt, hstable, Int.zero_add]
  have hfactor : (s.reserveFactor : ℚ) ≤ 10000 := by
    have : (s.reserveFactor : ℚ) ≤ (whole : Int) := by exact_mod_cast hf
    rwa [cast_whole] at this
  have hfactor0 : (0 : ℚ) ≤ s.reserveFactor := by exact_mod_cast hf0
  have hav : (0 : ℚ) ≤ s.availableLiquidity := by exact_mod_cast ha
  have hvr : (0 : ℚ) ≤ rate := by exact_mod_cast hrate
  unfold supplyRate
  rw [hstable, hdebt]
  -- without any debt nothing is promised
  rcases Int.lt_or_eq_of_le hd with hpos | hzero
  · have hgross := grossRate_mul_le ha hpos hrate hsr
    generalize mulRound ray halfRay _ _ = gross at hgross ⊢
    have hnet := percentRound_le gross (whole - s.reserveFactor)
    push_cast [cast_whole] at hnet
    have hall : (0 : ℚ) ≤ s.availableLiquidity + s.totalVariableDebt := by
      have : (0 : ℚ) < s.totalVariableDebt := by exact_mod_cast hpos
      linarith
    have hslack : (0 : ℚ) ≤ 5 * 10 ^ 17 +
        (s.availableLiquidity + s.totalVariableDebt) * (3 / 2 + rate / 10 ^ 27) := by positivity
    have hkept : (0 : ℚ) ≤ 1 - s.reserveFactor / 10000 := by linarith
    have hnet' := mul_le_mul_of_nonneg_left hnet hall
    have hgross' := mul_le_mul_of_nonneg_left hgross hkept
    have htaken := mul_nonneg (show (0 : ℚ) ≤ s.reserveFactor / 10000 by linarith) hslack
    linarith
  · have hnone : averageRate 0 0 rate s.averageStableRate = 0 := rfl
    have hnothing : mulRound whole halfWhole 0 (whole - s.reserveFactor) = 0 := by
      rw [mulRound, Int.zero_mul]
      decide
    rw [← hzero, hnone, rayRound_zero, hnothing]
    have := mul_nonneg hav (show (0 : ℚ) ≤ 2 + rate / 10 ^ 27 by positivity)
    push_cast
    linarith

end Kinked

/-! ## Either strategy -/

theorem Governed.rates_input {g : Governed} {s : RateInput} {rates : InterestRates}
    (h : g.rates s = .ok rates) : s.NonNegative ∧ 0 ≤ rates.liquidityRate := by
  unfold Governed.rates at h
  obtain ⟨_, hinput, h⟩ := bind_ok_iff.1 h
  split at h
  · obtain ⟨_, h, _⟩ := bind_ok_iff.1 h
    exact absurd h throw_ne_ok
  · simp only [bind_ok_iff, pure_ok_iff] at h
    obtain ⟨_, _, _, _, _, _, rate, hrate, rfl⟩ := h
    simp only [Governed.liquidityRate, bind_ok_iff] at hrate
    obtain ⟨_, _, _, _, _, _, _, _, _, _, hproduct⟩ := hrate
    exact ⟨RateInput.requireNonNegative_ok_iff.1 hinput, rayMul_nonneg hproduct⟩

/-- A strategy that gives rates has looked at the state, and promises suppliers no negative rate. -/
theorem RateStrategy.rates_input {strategy : RateStrategy} {s : RateInput} {rates : InterestRates}
    (h : strategy.rates s = .ok rates) : s.NonNegative ∧ 0 ≤ rates.liquidityRate := by
  cases strategy with
  | kinked k => exact ⟨(Kinked.rates_input h).1, Kinked.rates_liquidityRate h⟩
  | governed g => exact Governed.rates_input h

/-! ## Lawful strategies -/

/-- No parameter of a kinked curve is negative. What is tunable of a governed one never is. -/
def RateStrategy.Lawful : RateStrategy → Prop
  | .kinked k => k.NonNegative
  | .governed _ => True

theorem RateStrategy.Lawful.set {strategy next : RateStrategy} {setting : GovernedSetting}
    {caller : String} {value : Int} (h : strategy.Lawful)
    (hset : strategy.set setting caller value = .ok next) : next.Lawful := by
  cases strategy with
  | kinked k => cases hset
  | governed g =>
    obtain ⟨_, _, rfl⟩ := map_ok_iff.1 hset
    trivial

theorem Kinked.NonNegative.variableRate_nonneg {k : Kinked} (hk : k.NonNegative) {s : RateInput}
    {rates : InterestRates} (h : k.rates s = .ok rates) : 0 ≤ rates.variableBorrowRate := by
  obtain ⟨hs, hf⟩ := Kinked.rates_input h
  obtain ⟨variableRate, stableRate, hv, _, hok⟩ := Kinked.rates_ok hk hs hf
  rw [h, Except.ok.injEq] at hok
  rw [hok]
  exact hv

theorem Governed.variableRate_nonneg {g : Governed} {s : RateInput} {rates : InterestRates}
    (h : g.rates s = .ok rates) : 0 ≤ rates.variableBorrowRate := by
  unfold Governed.rates at h
  obtain ⟨_, _, h⟩ := bind_ok_iff.1 h
  rw [guard_ok_iff] at h
  simp only [bind_ok_iff, pure_ok_iff] at h
  obtain ⟨_, _, _, _, _, rate, hrate, _, _, rfl⟩ := h
  simp only [Governed.variableRate, bind_ok_iff, pure_ok_iff] at hrate
  obtain ⟨_, _, _, _, _, _, _, hproduct, rfl⟩ := hrate
  exact Int.add_nonneg g.intercept_nonneg (rayMul_nonneg hproduct)

theorem RateStrategy.Lawful.variableRate_nonneg {strategy : RateStrategy} (hlawful : strategy.Lawful)
    {s : RateInput} {rates : InterestRates} (h : strategy.rates s = .ok rates) :
    0 ≤ rates.variableBorrowRate := by
  cases strategy with
  | kinked k => exact Kinked.NonNegative.variableRate_nonneg hlawful h
  | governed g => exact Governed.variableRate_nonneg h

end MoneyMarket
