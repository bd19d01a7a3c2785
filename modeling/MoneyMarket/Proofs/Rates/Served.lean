import MoneyMarket.Proofs.Rates

/-!
# Rates for every state

With parameters that are not negative a strategy has rates for every state that is not negative, and
none of the rates is. All that keeps a governed strategy from it is a chance of a shock or a reserve
factor beyond the whole, for which its formula makes no sense; then it refuses.
-/

namespace MoneyMarket

open MoneyMarket.FixedPoint

structure InterestRates.NonNegative (rates : InterestRates) : Prop where
  liquidityRate : 0 ≤ rates.liquidityRate
  stableBorrowRate : 0 ≤ rates.stableBorrowRate
  variableBorrowRate : 0 ≤ rates.variableBorrowRate

variable {faults : Fault → Prop} {s : RateInput}

theorem Kinked.rates_total {k : Kinked} (hk : k.NonNegative) (hs : s.NonNegative)
    (hf : s.reserveFactor ≤ whole) : ∃ rates, k.rates s = .ok rates ∧ rates.NonNegative := by
  obtain ⟨variableRate, stableRate, hv, hsv, hok⟩ := rates_ok hk hs hf
  exact ⟨_, hok, supplyRate_nonneg hs hf hv, hsv, hv⟩

namespace Governed

/-- What governance cannot change is not negative either. -/
@[mk_iff]
structure NonNegative (g : Governed) : Prop where
  modelReserveFactor : ∀ eta, g.modelReserveFactor = some eta → 0 ≤ eta
  baseStableRate : 0 ≤ g.baseStableRate
  stableSlope1 : 0 ≤ g.stableSlope1
  stableSlope2 : 0 ≤ g.stableSlope2

instance (g : Governed) : Decidable g.NonNegative := decidable_of_iff' _ (nonNegative_iff g)

variable {g : Governed} {eta u : Int}

theorem modelFactor_answers (hrefused : ∀ cause, faults (.refused cause)) (hg : g.NonNegative)
    {factor : Int} (hfactor : 0 ≤ factor) :
    Answers faults (fun eta => 0 ≤ eta ∧ eta < ray) (g.modelFactor factor) := by
  have below {eta : Int} (heta : 0 ≤ eta) :
      Answers faults (fun eta => 0 ≤ eta ∧ eta < ray)
        (if ray ≤ eta then (throw (.refused .modelFactorTooHigh) : Except Fault PUnit) >>= fun _ =>
          pure eta else pure eta) := by
    apply Answers.guard (hrefused _)
    intro hlt
    exact ⟨heta, Int.not_le.1 hlt⟩
  unfold modelFactor
  split
  · rename_i eta heta
    exact below (hg.modelReserveFactor eta heta)
  · have hshare := Int.ediv_nonneg (b := whole)
      (Int.mul_nonneg hfactor (Int.le_of_lt ray_pos)) (by decide)
    have hbps : bpsToRay factor = .ok (factor * ray / whole) := by
      rw [bpsToRay, requireNonNegative_ok hfactor]
      rfl
    rw [hbps]
    exact below hshare

theorem modelFactor_nonneg (hg : g.NonNegative) {factor : Int} (hfactor : 0 ≤ factor)
    (h : g.modelFactor factor = .ok eta) : 0 ≤ eta := by
  have hanswers : Answers (fun _ => True) (fun eta => 0 ≤ eta ∧ eta < ray) (g.modelFactor factor) :=
    modelFactor_answers (fun _ => trivial) hg hfactor
  exact (hanswers.result h).1

theorem modelFactor_lt {factor : Int} (h : g.modelFactor factor = .ok eta) : eta < ray := by
  unfold modelFactor at h
  split at h
  · obtain ⟨hlt, heta⟩ := guard_ok_iff.1 h
    rw [← pure_ok_iff.1 heta]
    exact Int.not_le.1 hlt
  · obtain ⟨_, _, h⟩ := bind_ok_iff.1 h
    obtain ⟨hlt, heta⟩ := guard_ok_iff.1 h
    rw [← pure_ok_iff.1 heta]
    exact Int.not_le.1 hlt

theorem stableRate_nonneg (hg : g.NonNegative) (u : Int) : 0 ≤ g.stableRate u := by
  have h₁ := hg.stableSlope1
  have h₂ := hg.stableSlope2
  refine Int.add_nonneg (Int.add_nonneg hg.baseStableRate ?_) ?_ <;> split <;> omega

theorem variableRate_total (heta : 0 ≤ eta) (hbelow : eta < ray) (hu : 0 ≤ u) :
    ∃ rate, g.variableRate eta u = .ok rate ∧ 0 ≤ rate := by
  obtain ⟨expected, h₁, hexpected⟩ := rayMul_total heta g.shockProbability_nonneg
  obtain ⟨surcharge, h₂, hsurcharge⟩ := rayDiv_total hexpected (show 0 < ray - eta by omega)
  have hmultiplier : 0 ≤ ray + surcharge := Int.add_nonneg (Int.le_of_lt ray_pos) hsurcharge
  obtain ⟨steep, h₃, hsteep⟩ := rayMul_total g.slope_nonneg hmultiplier
  obtain ⟨rise, h₄, hrise⟩ := rayMul_total hsteep hu
  simp only [variableRate, h₁, h₂, h₃, h₄, ok_bind]
  exact ⟨_, rfl, Int.add_nonneg g.intercept_nonneg hrise⟩

theorem liquidityRate_total (hq : g.shockProbability ≤ ray) (hbelow : eta < ray) (hu : 0 ≤ u) :
    ∃ rate, g.liquidityRate eta u = .ok rate ∧ 0 ≤ rate := by
  have ha := g.intercept_nonneg
  have hrest : 0 < ray - eta := by omega
  obtain ⟨rise, h₁, hrise⟩ := rayMul_total g.slope_nonneg hu
  obtain ⟨calm, h₂, hcalm⟩ := rayMul_total (show 0 ≤ ray - g.shockProbability by omega)
    (Int.add_nonneg ha hrise)
  obtain ⟨kept, h₃, hkept⟩ := rayMul_total g.shockProbability_nonneg (Int.le_of_lt hrest)
  obtain ⟨steep, h₄, hsteep⟩ := rayDiv_total g.slope_nonneg hrest
  obtain ⟨shock, h₅, hshock⟩ := rayMul_total hkept (Int.add_nonneg ha hsteep)
  obtain ⟨rate, h₆, hrate⟩ := rayMul_total hu (Int.add_nonneg hcalm hshock)
  simp only [liquidityRate, h₁, h₂, h₃, h₄, h₅, h₆, ok_bind]
  exact ⟨rate, rfl, hrate⟩

theorem rates_given (hq : g.shockProbability ≤ ray) (hs : s.NonNegative) (heta0 : 0 ≤ eta)
    (heta : g.modelFactor s.reserveFactor = .ok eta) :
    let u := lentShare s.availableLiquidity s.totalDebt
    ∃ variableRate liquidityRate, g.variableRate eta u = .ok variableRate ∧
      g.liquidityRate eta u = .ok liquidityRate ∧ 0 ≤ variableRate ∧ 0 ≤ liquidityRate ∧
      g.rates s = .ok ⟨liquidityRate, g.stableRate u, variableRate⟩ := by
  intro u
  have hbelow := modelFactor_lt heta
  have hdebt : 0 ≤ s.totalDebt := Int.add_nonneg hs.2.1 hs.2.2.1
  have hu : 0 ≤ u := lentShare_nonneg hs.1 hdebt
  obtain ⟨variableRate, hvariable, hv⟩ := variableRate_total (g := g) heta0 hbelow hu
  obtain ⟨liquidityRate, hliquidity, hl⟩ := liquidityRate_total (g := g) hq hbelow hu
  have hinput : s.requireNonNegative = .ok () := RateInput.requireNonNegative_ok_iff.2 hs
  refine ⟨variableRate, liquidityRate, hvariable, hliquidity, hv, hl, ?_⟩
  unfold rates
  rw [hinput, ok_bind, if_neg (Int.not_lt.2 hq), heta, ok_bind, utilization_ok hs.1 hdebt, ok_bind,
    hvariable, ok_bind, hliquidity]
  rfl

theorem rates_answers (hrefused : ∀ cause, faults (.refused cause)) (hg : g.NonNegative)
    (hs : s.NonNegative) : Answers faults InterestRates.NonNegative (g.rates s) := by
  obtain ⟨ha, hsd, hvd, hsr, hfactor⟩ := hs
  have hdebt : 0 ≤ s.totalDebt := Int.add_nonneg hsd hvd
  have hu := lentShare_nonneg ha hdebt
  have hinput : s.requireNonNegative = .ok () :=
    RateInput.requireNonNegative_ok_iff.2 ⟨ha, hsd, hvd, hsr, hfactor⟩
  unfold Governed.rates
  rw [hinput, ok_bind]
  apply Answers.guard (hrefused _)
  intro hq
  apply (modelFactor_answers hrefused hg hfactor).andThen
  rintro eta ⟨heta, hbelow⟩
  obtain ⟨variableRate, hvariable, hv⟩ := variableRate_total (g := g) heta hbelow hu
  obtain ⟨liquidityRate, hliquidity, hl⟩ :=
    liquidityRate_total (g := g) (Int.not_lt.1 hq) hbelow hu
  rw [utilization_ok ha hdebt, ok_bind, hvariable, ok_bind, hliquidity, ok_bind]
  exact ⟨hl, stableRate_nonneg hg _, hv⟩

end Governed

namespace RateStrategy

def NonNegative : RateStrategy → Prop
  | kinked k => k.NonNegative
  | governed g => g.NonNegative

instance : (strategy : RateStrategy) → Decidable strategy.NonNegative
  | kinked k => inferInstanceAs (Decidable k.NonNegative)
  | governed g => inferInstanceAs (Decidable g.NonNegative)

/-- The strategy may be used with that factor: a kinked one leaves something to suppliers. -/
def Serves (strategy : RateStrategy) (factor : Int) : Prop :=
  strategy.NonNegative ∧ ∀ k, strategy = kinked k → factor ≤ whole

variable {strategy next : RateStrategy} {factor : Int}

theorem NonNegative.lawful (h : strategy.NonNegative) : strategy.Lawful := by
  cases strategy with
  | kinked k => exact h
  | governed g => trivial

theorem NonNegative.set {setting : GovernedSetting} {caller : String} {value : Int}
    (h : strategy.NonNegative) (hset : strategy.set setting caller value = .ok next)
    (factor : Int) : next.Serves factor := by
  cases strategy with
  | kinked k => cases hset
  | governed g =>
    obtain ⟨g', hg', rfl⟩ := map_ok_iff.1 hset
    refine ⟨?_, nofun⟩
    unfold Governed.set at hg'
    split at hg'
    · cases hg'
    · split at hg'
      · cases hg'
      · cases setting <;> cases hg' <;>
          exact ⟨h.modelReserveFactor, h.baseStableRate, h.stableSlope1, h.stableSlope2⟩

theorem Serves.rates_answers (hrefused : ∀ cause, faults (.refused cause))
    (h : strategy.Serves s.reserveFactor) (hs : s.NonNegative) :
    Answers faults InterestRates.NonNegative (strategy.rates s) := by
  cases strategy with
  | kinked k => exact .of_total (Kinked.rates_total h.1 hs (h.2 k rfl))
  | governed g => exact Governed.rates_answers hrefused h.1 hs

end RateStrategy

end MoneyMarket
