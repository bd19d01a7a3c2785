import MoneyMarket.Proofs.Rates.Served

/-!
# Rates rise with utilization

The share that is lent rises with debt and falls with the money left over, and both strategies follow
it: no borrow rate is lower where more is lent. A kinked curve is put together from two branches, whose
rounded values have to meet in order at the kink. They do for the shipped curves.
-/

namespace MoneyMarket

open MoneyMarket.FixedPoint

namespace Kinked

variable {k : Kinked} {u v : Int}

theorem rise_mono (hk : 0 < k.optimalUtilization) {slope : Int} (hslope : 0 ≤ slope) (h : u ≤ v) :
    k.rise slope u ≤ k.rise slope v := by
  refine divRound_mono (by decide) hk ?_
  rw [mulRound_comm _ _ u, mulRound_comm _ _ v]
  exact rayRound_mono hslope h

theorem excess_mono (habove : k.optimalUtilization < u) (hv : v ≤ ray) (h : u ≤ v) :
    k.excess u ≤ k.excess v :=
  divRound_mono (by decide) (by omega) (by omega)

theorem excess_le_ray (habove : k.optimalUtilization < u) (hu : u ≤ ray) : k.excess u ≤ ray := by
  rw [excess, divRound_le_iff ray (by omega)]
  have hway := Int.mul_le_mul_of_nonneg_right
    (show u - k.optimalUtilization ≤ ray - k.optimalUtilization by omega) (Int.le_of_lt ray_pos)
  have hrest : 0 < ray - k.optimalUtilization := by omega
  linarith

/-- Below the kink no rate has risen by more than its first slope, not even by rounding. -/
@[mk_iff]
structure Joined (k : Kinked) : Prop where
  optimal : 0 < k.optimalUtilization
  variableSlope : k.rise k.variableSlope1 k.optimalUtilization ≤ k.variableSlope1
  stableSlope : k.rise k.stableSlope1 k.optimalUtilization ≤ k.stableSlope1

instance (k : Kinked) : Decidable k.Joined := decidable_of_iff' _ (joined_iff k)

section Curve

variable (hk : k.NonNegative) (hjoined : k.Joined)
include hk hjoined

theorem variableAt_mono (hv : v ≤ ray) (h : u ≤ v) : k.variableAt u ≤ k.variableAt v := by
  unfold variableAt
  rcases Int.lt_or_le k.optimalUtilization u with habove | hbelow
  · rw [if_pos habove, if_pos (Int.lt_of_lt_of_le habove h)]
    have hrise := rayRound_mono hk.variableSlope2 (excess_mono habove hv h)
    omega
  · rw [if_neg (Int.not_lt.2 hbelow)]
    split
    · rename_i habove
      -- the branches meet at the kink
      have hkink := rise_mono hjoined.optimal hk.variableSlope1 hbelow
      have hjoin := hjoined.variableSlope
      have hrise := rayRound_nonneg hk.variableSlope2 (excess_nonneg (Int.le_of_lt habove))
      omega
    · have hrise := rise_mono hjoined.optimal hk.variableSlope1 h
      omega

theorem stableAt_mono (h : u ≤ v) : k.stableAt u ≤ k.stableAt v := by
  unfold stableAt
  rcases Int.lt_or_le k.optimalUtilization u with habove | hbelow
  · rw [if_pos habove, if_pos (Int.lt_of_lt_of_le habove h)]
  · rw [if_neg (Int.not_lt.2 hbelow)]
    split
    · have hkink := rise_mono hjoined.optimal hk.stableSlope1 hbelow
      have hjoin := hjoined.stableSlope
      have hslope := hk.stableSlope2
      omega
    · have hrise := rise_mono hjoined.optimal hk.stableSlope1 h
      omega

theorem variableAt_between (hu : 0 ≤ u) (hray : u ≤ ray) :
    k.baseVariableRate ≤ k.variableAt u ∧
      k.variableAt u ≤ k.baseVariableRate + k.variableSlope1 + k.variableSlope2 := by
  have hslope₁ := hk.variableSlope1
  have hslope₂ := hk.variableSlope2
  unfold variableAt
  split
  · rename_i habove
    have hrise := rayRound_nonneg hslope₂ (excess_nonneg (Int.le_of_lt habove))
    have hall := rayRound_mono hslope₂ (excess_le_ray habove hray)
    rw [rayRound_by_one] at hall
    omega
  · rename_i hbelow
    have hrise := rise_nonneg (k := k) hu hslope₁
    have hkink := rise_mono hjoined.optimal hslope₁ (Int.not_lt.1 hbelow)
    have hjoin := hjoined.variableSlope
    omega

end Curve

theorem shipped_joined : ∀ e ∈ KinkedParams.shipped,
    ∃ k, ofParams e.2 = .ok k ∧ k.NonNegative ∧ k.Joined := by decide +kernel

theorem joined_of_shipped {name : String} {strategy : RateStrategy}
    (h : RateStrategy.shipped? name = some strategy) :
    ∃ k : Kinked, strategy = .kinked k ∧ k.NonNegative ∧ k.Joined := by
  simp only [RateStrategy.shipped?, Option.bind_eq_bind, Option.bind_eq_some_iff,
    Option.map_eq_some_iff, toOption_eq_some_iff] at h
  obtain ⟨p, hp, k, hk, rfl⟩ := h
  obtain ⟨_, _, hlist, _⟩ := List.lookup_eq_some_iff.1 hp
  obtain ⟨k', hk', hlawful⟩ := shipped_joined (name, p) (by rw [hlist]; simp)
  cases hk.symm.trans hk'
  exact ⟨k, rfl, hlawful⟩

end Kinked

namespace Governed

variable {g : Governed} {eta u v : Int}

theorem variableRate_mono (h : u ≤ v) {low high : Int} (hlow : g.variableRate eta u = .ok low)
    (hhigh : g.variableRate eta v = .ok high) : low ≤ high := by
  simp only [variableRate, bind_ok_iff, rayMul_ok_iff, rayDiv_ok_iff, pure_ok_iff] at hlow hhigh
  obtain ⟨_, ⟨-, -, rfl⟩, _, ⟨-, -, rfl⟩, _, ⟨-, -, rfl⟩, _, ⟨hsteep, -, rfl⟩, rfl⟩ := hlow
  obtain ⟨_, ⟨-, -, rfl⟩, _, ⟨-, -, rfl⟩, _, ⟨-, -, rfl⟩, _, ⟨-, -, rfl⟩, rfl⟩ := hhigh
  have hrise := rayRound_mono hsteep h
  omega

theorem stableRate_mono (hg : g.NonNegative) (h : u ≤ v) : g.stableRate u ≤ g.stableRate v := by
  have hslope₁ := hg.stableSlope1
  have hslope₂ := hg.stableSlope2
  have step (kink : Int) {slope : Int} (hslope : 0 ≤ slope) :
      (if kink < u then slope else 0) ≤ if kink < v then slope else 0 := by
    split <;> split <;> omega
  have hlow := step g.stableKinkLow hslope₁
  have hhigh := step g.stableKinkHigh hslope₂
  unfold stableRate
  omega

end Governed

/-! ## Either strategy -/

/-- Strategies whose borrow rates follow utilization: the shipped curves, and governed ones that can
be used with a reserve factor. -/
inductive RateStrategy.Follows (factor : Int) : RateStrategy → Prop
  | shipped {name : String} {strategy : RateStrategy} (h : shipped? name = some strategy) :
    Follows factor strategy
  | governed {g : Governed} {eta : Int} (hg : g.NonNegative) (hq : g.shockProbability ≤ ray)
    (heta : g.modelFactor factor = .ok eta) : Follows factor (.governed g)

namespace RateStrategy.Follows

variable {strategy : RateStrategy} {s t : RateInput}

theorem rates_mono (h : strategy.Follows s.reserveFactor) (hs : s.NonNegative) (ht : t.NonNegative)
    (hfactor : s.reserveFactor ≤ whole) (hsame : t.reserveFactor = s.reserveFactor) :
    ∃ rates rates', strategy.rates s = .ok rates ∧ strategy.rates t = .ok rates' ∧
      (lentShare s.availableLiquidity s.totalDebt ≤ lentShare t.availableLiquidity t.totalDebt →
        rates.variableBorrowRate ≤ rates'.variableBorrowRate ∧
        rates.stableBorrowRate ≤ rates'.stableBorrowRate) := by
  cases h with
  | shipped hname =>
    obtain ⟨k, rfl, hk, hjoined⟩ := Kinked.joined_of_shipped hname
    have hray := lentShare_le_ray ht.1 (show 0 ≤ t.totalDebt from Int.add_nonneg ht.2.1 ht.2.2.1)
    refine ⟨_, _, Kinked.rates_eq hk hs hfactor, Kinked.rates_eq hk ht (hsame ▸ hfactor), ?_⟩
    intro hle
    exact ⟨Kinked.variableAt_mono hk hjoined hray hle, Kinked.stableAt_mono hk hjoined hle⟩
  | @governed g eta hg hq heta =>
    have heta0 := Governed.modelFactor_nonneg hg hs.2.2.2.2 heta
    obtain ⟨_, _, hlow, _, _, _, hrates⟩ := Governed.rates_given hq hs heta0 heta
    obtain ⟨_, _, hhigh, _, _, _, hrates'⟩ := Governed.rates_given hq ht heta0 (hsame ▸ heta)
    refine ⟨_, _, hrates, hrates', ?_⟩
    intro hle
    exact ⟨Governed.variableRate_mono hle hlow hhigh, Governed.stableRate_mono hg hle⟩

theorem variableRate_between {k : Kinked} (h : (kinked k).Follows s.reserveFactor)
    (hs : s.NonNegative) (hfactor : s.reserveFactor ≤ whole) {rates : InterestRates}
    (hrates : k.rates s = .ok rates) : k.baseVariableRate ≤ rates.variableBorrowRate ∧
      rates.variableBorrowRate ≤ k.baseVariableRate + k.variableSlope1 + k.variableSlope2 := by
  cases h with
  | shipped hname =>
    obtain ⟨_, heq, hk, hjoined⟩ := Kinked.joined_of_shipped hname
    cases heq
    have hdebt : 0 ≤ s.totalDebt := Int.add_nonneg hs.2.1 hs.2.2.1
    rw [Kinked.rates_eq hk hs hfactor] at hrates
    cases hrates
    exact Kinked.variableAt_between hk hjoined (lentShare_nonneg hs.1 hdebt)
      (lentShare_le_ray hs.1 hdebt)

end RateStrategy.Follows

/-- **Rates follow utilization.** Between any two states with one reserve factor the lent share, which
is one of the whole, rises with debt and falls with the money left over, and no borrow rate falls where
the lent share rises. Along a shipped curve the variable rate stays between its base and the base with
both slopes. -/
theorem rates_follow_utilization {s t : RateInput} (hs : s.NonNegative) (ht : t.NonNegative)
    (hfactor : s.reserveFactor ≤ whole) (hsame : t.reserveFactor = s.reserveFactor) :
    ∃ u v, utilization s.availableLiquidity s.totalDebt = .ok u ∧
      utilization t.availableLiquidity t.totalDebt = .ok v ∧ (0 ≤ u ∧ u ≤ ray) ∧
      (s.totalDebt ≤ t.totalDebt → t.availableLiquidity ≤ s.availableLiquidity → u ≤ v) ∧
      ∀ strategy : RateStrategy, strategy.Follows s.reserveFactor → ∃ rates rates',
        strategy.rates s = .ok rates ∧ strategy.rates t = .ok rates' ∧
        (u ≤ v → rates.variableBorrowRate ≤ rates'.variableBorrowRate ∧
          rates.stableBorrowRate ≤ rates'.stableBorrowRate) ∧
        ∀ k, strategy = .kinked k → k.baseVariableRate ≤ rates.variableBorrowRate ∧
          rates.variableBorrowRate ≤ k.baseVariableRate + k.variableSlope1 + k.variableSlope2 := by
  have hsd : 0 ≤ s.totalDebt := Int.add_nonneg hs.2.1 hs.2.2.1
  have htd : 0 ≤ t.totalDebt := Int.add_nonneg ht.2.1 ht.2.2.1
  refine ⟨_, _, utilization_ok hs.1 hsd, utilization_ok ht.1 htd,
    ⟨lentShare_nonneg hs.1 hsd, lentShare_le_ray hs.1 hsd⟩, ?_, ?_⟩
  · intro hmore hless
    exact lentShare_mono ht.1 hsd hless hmore
  · intro strategy hfollows
    obtain ⟨rates, rates', hrates, hrates', hmono⟩ :=
      hfollows.rates_mono hs ht hfactor hsame
    refine ⟨rates, rates', hrates, hrates', hmono, ?_⟩
    rintro k rfl
    exact hfollows.variableRate_between hs hfactor hrates

/-- Across the kink, from 64.9 to 65.1 per cent, with some of the first debt at stable rates. -/
theorem rates_across_the_kink : ∃ u v rates rates',
    utilization 351 649 = .ok u ∧ utilization 349 651 = .ok v ∧ u ≤ v ∧
    Kinked.weth.rates ⟨351, 300, 349, 0, 1000⟩ = .ok rates ∧
    Kinked.weth.rates ⟨349, 0, 651, 0, 1000⟩ = .ok rates' ∧
    rates.variableBorrowRate ≤ rates'.variableBorrowRate ∧
    rates.stableBorrowRate ≤ rates'.stableBorrowRate ∧ 0 ≤ rates.variableBorrowRate ∧
    rates.variableBorrowRate ≤ 1590000000000000000000000000 := by
  have hname : RateStrategy.shipped? "rateStrategyWETH" = some (.kinked .weth) := by decide +kernel
  obtain ⟨u, v, hu, hv, -, hshare, hrates⟩ := rates_follow_utilization
    (s := ⟨351, 300, 349, 0, 1000⟩) (t := ⟨349, 0, 651, 0, 1000⟩)
    (by unfold RateInput.NonNegative; decide) (by unfold RateInput.NonNegative; decide)
    (by decide) rfl
  obtain ⟨rates, rates', hlow, hhigh, hmono, hbetween⟩ := hrates _ (.shipped hname)
  have hle := hshare (by decide) (by decide)
  obtain ⟨hvariable, hstable⟩ := hmono hle
  obtain ⟨hbase, hslopes⟩ := hbetween _ rfl
  exact ⟨u, v, rates, rates', hu, hv, hle, hlow, hhigh, hvariable, hstable, hbase, hslopes⟩

end MoneyMarket
