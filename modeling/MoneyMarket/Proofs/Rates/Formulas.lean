import MoneyMarket.Proofs.Rates.Governed

/-!
# Rates and their formulas

Each rate is a nest of rounded products and quotients. Here are the formulas without rounding, over
utilization as it is rounded, and how far the rates can be from them. A rounding that is divided by a
small share counts many times, and no formula is off by more than that.
-/

namespace MoneyMarket

open FixedPoint

/-! ## Kinked -/

namespace Kinked

variable {k : Kinked} {u : Int}

/-- The variable rate without rounding. -/
def variableFormula (k : Kinked) (u : Int) : ℚ :=
  if k.optimalUtilization < u then
    k.baseVariableRate + k.variableSlope1 +
      k.variableSlope2 * (u - k.optimalUtilization) / (ray - k.optimalUtilization)
  else k.baseVariableRate + k.variableSlope1 * u / k.optimalUtilization

/-- How far roundings can move the variable rate. -/
def variableSlack (k : Kinked) (u : Int) : ℚ :=
  if k.optimalUtilization < u then k.variableSlope2 / (2 * ray) + 1 / 2
  else ray / (2 * k.optimalUtilization) + 1 / 2

theorem rise_near (hk : 0 < k.optimalUtilization) (slope u : Int) :
    |(k.rise slope u : ℚ) - slope * u / k.optimalUtilization| ≤
      ray / (2 * k.optimalUtilization) + 1 / 2 := by
  have hoptimal : (0 : ℚ) < k.optimalUtilization := by exact_mod_cast hk
  have hray := cast_ray_pos
  have hquotient := rayQuotient_near (mulRound ray halfRay u slope) hk
  have hproduct := scaled_near (show 0 ≤ 1 / ofRay k.optimalUtilization from
    one_div_nonneg.2 (ofRay_pos hk).le) (rayRound_near u slope)
  have hexact : 1 / ofRay k.optimalUtilization * (u * ofRay slope) =
      slope * u / k.optimalUtilization := by
    unfold ofRay
    field_simp
  have hslack : 1 / ofRay k.optimalUtilization * (1 / 2) = ray / (2 * k.optimalUtilization) := by
    unfold ofRay
    field_simp
  rw [hexact, hslack, one_div_mul_eq_div] at hproduct
  rw [rise]
  rw [abs_le] at *
  constructor <;> linarith

theorem excess_near (habove : k.optimalUtilization < ray) (u : Int) :
    |ofRay (k.excess u) - (u - k.optimalUtilization) / (ray - k.optimalUtilization)| ≤
      1 / 2 / ray := by
  have hrest : 0 < ray - k.optimalUtilization := by omega
  have hpos : (0 : ℚ) < ((ray - k.optimalUtilization : Int) : ℚ) := by exact_mod_cast hrest
  have hquotient := rayQuotient_near (u - k.optimalUtilization) hrest
  have hexact : ((u - k.optimalUtilization : Int) : ℚ) / ofRay (ray - k.optimalUtilization) =
      ray * ((u - k.optimalUtilization) / (ray - k.optimalUtilization)) := by
    unfold ofRay
    push_cast at hpos ⊢
    field_simp
  rw [hexact] at hquotient
  exact ofRay_near hquotient

theorem variableAt_near (hk : k.NonNegative) (hu : 0 ≤ u) (hray : u ≤ ray) :
    |(k.variableAt u : ℚ) - k.variableFormula u| ≤ k.variableSlack u := by
  unfold variableAt variableFormula variableSlack
  split
  · rename_i habove
    have hslope : (0 : ℚ) ≤ k.variableSlope2 := by exact_mod_cast hk.variableSlope2
    have hrise := rayRound_near k.variableSlope2 (k.excess u)
    have hexcess := scaled_near hslope (excess_near (k := k) (by omega) u)
    have hslack : (k.variableSlope2 : ℚ) * (1 / 2 / ray) = k.variableSlope2 / (2 * ray) := by
      field_simp
    rw [hslack, ← mul_div_assoc] at hexcess
    push_cast
    rw [abs_le] at *
    constructor <;> linarith
  · rename_i hbelow
    rcases Int.lt_or_eq_of_le k.optimal_nonneg with hoptimal | hzero
    · have hrise := rise_near hoptimal k.variableSlope1 u
      push_cast
      rw [abs_le] at *
      constructor <;> linarith
    · -- the kink is at zero, and so is utilization
      have hnone : u = 0 := by omega
      rw [hnone, rise_zero, ← hzero]
      norm_num

end Kinked

/-! ## Governed -/

namespace Governed

variable {g : Governed} {eta u rate : Int}

def variableFormula (g : Governed) (eta u : Int) : ℚ :=
  g.intercept + g.slope * (1 + eta * g.shockProbability / (ray * (ray - eta))) * u / ray

def liquidityFormula (g : Governed) (eta u : Int) : ℚ :=
  u / ray * ((1 - g.shockProbability / ray) * (g.intercept + g.slope * u / ray) +
    g.shockProbability * (ray - eta) / ray ^ 2 * (g.intercept + g.slope * ray / (ray - eta)))

def variableSlack (g : Governed) (eta : Int) : ℚ :=
  g.slope * (ray / (ray - eta) + 1) / (2 * ray) + 1

def liquiditySlack (g : Governed) (eta : Int) : ℚ :=
  (g.intercept + g.slope * ray / (ray - eta)) / (2 * ray) + 3

section Fractions

variable (hbelow : eta < ray)
include hbelow

theorem rest_cast_pos : (0 : ℚ) < ray - eta := by
  have hrest : (0 : ℚ) < ((ray - eta : Int) : ℚ) := by exact_mod_cast (show 0 < ray - eta by omega)
  push_cast at hrest
  exact hrest

theorem variableFormula_eq (g : Governed) (u : Int) : g.variableFormula eta u =
    g.intercept + ofRay u * (g.slope * (1 +
      (1 - ofRay (ray - eta)) * ofRay g.shockProbability / ofRay (ray - eta))) := by
  have hray := cast_ray_pos
  have hrest := rest_cast_pos hbelow
  unfold variableFormula ofRay
  push_cast
  field_simp
  ring

theorem liquidityFormula_eq (g : Governed) (u : Int) : g.liquidityFormula eta u =
    ofRay u * ((1 - ofRay g.shockProbability) * (g.intercept + g.slope * ofRay u) +
      ofRay g.shockProbability * ofRay (ray - eta) *
        (g.intercept + g.slope / ofRay (ray - eta))) := by
  have hray := cast_ray_pos
  have hrest := rest_cast_pos hbelow
  unfold liquidityFormula ofRay
  push_cast
  field_simp

theorem variableSlack_eq (g : Governed) : g.variableSlack eta =
    g.slope * (1 / ray / 2 * (1 + 1 / ofRay (ray - eta))) + 1 := by
  have hray := cast_ray_pos
  have hrest := rest_cast_pos hbelow
  unfold variableSlack ofRay
  push_cast
  field_simp
  ring

theorem liquiditySlack_eq (g : Governed) : g.liquiditySlack eta =
    (g.intercept + g.slope / ofRay (ray - eta)) * (1 / ray / 2) + 3 := by
  have hray := cast_ray_pos
  have hrest := rest_cast_pos hbelow
  unfold liquiditySlack ofRay
  push_cast
  field_simp

end Fractions

theorem variableRate_near (hbelow : eta < ray) (hu : 0 ≤ u) (hray : u ≤ ray)
    (h : g.variableRate eta u = .ok rate) :
    |(rate : ℚ) - g.variableFormula eta u| ≤ g.variableSlack eta := by
  simp only [variableRate, bind_ok_iff, rayMul_ok_iff, rayDiv_ok_iff, pure_ok_iff] at h
  obtain ⟨_, ⟨-, -, rfl⟩, _, ⟨-, -, rfl⟩, steep, ⟨-, -, hsteep⟩, rise, ⟨-, -, hrise⟩, rfl⟩ := h
  have hm := slope_cast_nonneg g
  have hsteep' := rayRound_near g.slope (ray + g.surcharge eta)
  rw [ofRay_add, ofRay_ray, surcharge, hsteep, ← surcharge] at hsteep'
  have hrise' : |(rise : ℚ) - ofRay u * steep| ≤ 1 / 2 := by
    rw [← hrise, mul_comm]
    exact rayRound_near _ _
  have hsurcharge := scaled_near hm (surcharge_near (g := g) hbelow)
  rw [variableFormula_eq hbelow, variableSlack_eq hbelow]
  generalize (1 - ofRay (ray - eta)) * ofRay g.shockProbability / ofRay (ray - eta) = exact at *
  have hinner : |(steep : ℚ) - g.slope * (1 + exact)| ≤
      g.slope * (1 / ray / 2 * (1 + 1 / ofRay (ray - eta))) + 1 / 2 := by
    rw [abs_le] at *
    constructor <;> linarith
  -- the lent share is at most one, and magnifies no rounding
  have houter := le_trans (scaled_near (ofRay_nonneg hu) hinner)
    (mul_le_of_le_one_left (le_trans (abs_nonneg _) hinner) (ofRay_le_one hray))
  push_cast
  rw [abs_le] at *
  constructor <;> linarith

theorem liquidityRate_near (hq : g.shockProbability ≤ ray) (heta : 0 ≤ eta) (hbelow : eta < ray)
    (hu : 0 ≤ u) (hray : u ≤ ray) (h : g.liquidityRate eta u = .ok rate) :
    |(rate : ℚ) - g.liquidityFormula eta u| ≤ g.liquiditySlack eta := by
  have ha := intercept_cast_nonneg g
  have hm := slope_cast_nonneg g
  have hrest : 0 < ofRay (ray - eta) := ofRay_pos (by omega)
  have hpaid : 0 ≤ g.intercept + g.slope / ofRay (ray - eta) := by positivity
  have hearned := earned_error hq heta hbelow hu hray h
  have hunit : 0 ≤ 1 / (ray : ℚ) / 2 := by
    have := cast_ray_pos
    positivity
  have hshare := scaled_near (ofRay_nonneg hu) (scaled_near hpaid (shockShare_near g eta))
  have hshare' := le_trans hshare
    (mul_le_of_le_one_left (mul_nonneg hpaid hunit) (ofRay_le_one hray))
  rw [liquidityFormula_eq hbelow, liquiditySlack_eq hbelow]
  rw [abs_le] at *
  constructor <;> linarith

end Governed

/-- **Rates are those of their formulas.** In every state a rate is as far from its formula, at the
utilization that is reported, as its roundings can move it. A kinked curve with parameters that are not
negative has rates unless the reserve factor is beyond the whole, a governed one if neither the chance
of a shock nor its reserve factor is. -/
theorem rates_near_formulas {s : RateInput} (hs : s.NonNegative) :
    ∃ u, utilization s.availableLiquidity s.totalDebt = .ok u ∧
      (∀ k : Kinked, k.NonNegative →
        ((∃ rates, k.rates s = .ok rates) ↔ s.reserveFactor ≤ whole) ∧
        ∀ rates, k.rates s = .ok rates →
          |(rates.variableBorrowRate : ℚ) - k.variableFormula u| ≤ k.variableSlack u) ∧
      ∀ (g : Governed) (eta : Int), g.shockProbability ≤ ray →
        g.modelFactor s.reserveFactor = .ok eta → 0 ≤ eta → ∃ rates, g.rates s = .ok rates ∧
          |(rates.variableBorrowRate : ℚ) - g.variableFormula eta u| ≤ g.variableSlack eta ∧
          |(rates.liquidityRate : ℚ) - g.liquidityFormula eta u| ≤ g.liquiditySlack eta := by
  have hdebt : 0 ≤ s.totalDebt := Int.add_nonneg hs.2.1 hs.2.2.1
  have hu := lentShare_nonneg hs.1 hdebt
  have hray := lentShare_le_ray hs.1 hdebt
  refine ⟨_, utilization_ok hs.1 hdebt, ?_, ?_⟩
  · intro k hk
    refine ⟨⟨?_, fun hf => ⟨_, Kinked.rates_eq hk hs hf⟩⟩, fun rates hrates => ?_⟩
    · rintro ⟨_, hrates⟩
      exact (Kinked.rates_input hrates).2
    · rw [Kinked.rates_eq hk hs (Kinked.rates_input hrates).2] at hrates
      cases hrates
      exact Kinked.variableAt_near hk hu hray
  · intro g eta hq heta heta0
    have hbelow := Governed.modelFactor_lt heta
    obtain ⟨_, _, hvariable, hliquidity, _, _, hrates⟩ := Governed.rates_given hq hs heta0 heta
    exact ⟨_, hrates, Governed.variableRate_near hbelow hu hray hvariable,
      Governed.liquidityRate_near hq heta0 hbelow hu hray hliquidity⟩

theorem formulas_at_two_thirds : ∃ u, utilization 1000 2000 = .ok u ∧
    (∃ rates, Kinked.weth.rates (Governed.lent 1000 2000) = .ok rates ∧
      |(rates.variableBorrowRate : ℚ) - Kinked.weth.variableFormula u| ≤
        Kinked.weth.variableSlack u) ∧
    ∃ rates, Governed.standard.rates (Governed.lent 1000 2000) = .ok rates ∧
      |(rates.variableBorrowRate : ℚ) - Governed.standard.variableFormula halfRay u| ≤
        Governed.standard.variableSlack halfRay ∧
      |(rates.liquidityRate : ℚ) - Governed.standard.liquidityFormula halfRay u| ≤
        Governed.standard.liquiditySlack halfRay := by
  obtain ⟨u, hu, hkinked, hgoverned⟩ := rates_near_formulas (s := Governed.lent 1000 2000)
    (by unfold RateInput.NonNegative; decide)
  obtain ⟨hserved, hnear⟩ := hkinked .weth (by decide)
  obtain ⟨rates, hrates⟩ := hserved.2 (by decide)
  exact ⟨u, hu, ⟨rates, hrates, hnear rates hrates⟩,
    hgoverned .standard halfRay (by decide) rfl (by decide)⟩

end MoneyMarket
