import MoneyMarket.Proofs.Ledger.Readable
import MoneyMarket.Proofs.Rates.Served
import MoneyMarket.Proofs.Reserve.Round

/-!
# Reserves and positions in order

In a reserve that is in order no parameter and no amount is negative, no index is zero, and no time
lies ahead. Then every figure that is read from it has a value, each booking in it is done and keeps
it in order, and an accrual is done unless its strategy refuses to give rates.
-/

namespace MoneyMarket

open MoneyMarket.FixedPoint MoneyMarket.Interest

@[mk_iff]
structure ReserveConfig.NonNegative (c : ReserveConfig) : Prop where
  decimals : 0 ≤ c.decimals
  baseLtv : 0 ≤ c.baseLtv
  liquidationThreshold : 0 ≤ c.liquidationThreshold
  liquidationBonus : 0 ≤ c.liquidationBonus
  reserveFactor : 0 ≤ c.reserveFactor

instance (c : ReserveConfig) : Decidable c.NonNegative := decidable_of_iff' _ (c.nonNegative_iff)

/-- The loan can be read, and more can be lent at its rate. -/
structure StableLoan.Orderly (now : Int) (x : StableLoan) : Prop where
  readable : x.Readable now
  rate : 0 ≤ x.rate

structure Reserve.Orderly (now : Int) (r : Reserve) : Prop where
  config : r.config.NonNegative
  serves : r.strategy.Serves r.config.reserveFactor
  supplyRate : 0 ≤ r.currentLiquidityRate
  stableRate : 0 ≤ r.currentStableBorrowRate
  borrowRate : 0 ≤ r.currentVariableBorrowRate
  income : 0 < r.liquidityIndex
  debt : 0 < r.variableBorrowIndex
  floating : 0 ≤ r.scaledVariableDebt
  loan : r.loan.Orderly r.lastUpdateTimestamp
  liquidity : 0 ≤ r.availableLiquidity
  credit : 0 ≤ r.accruedToTreasury
  updated : r.lastUpdateTimestamp ≤ now

structure Position.Orderly (now : Int) (pos : Position) : Prop where
  supply : 0 ≤ pos.scaledBalance
  floating : 0 ≤ pos.scaledVariableDebt
  loan : pos.loan.Orderly now

variable {now time : Int} {faults : Fault → Prop}

theorem StableLoan.Orderly.later {x : StableLoan} (h : x.Orderly now) (hle : now ≤ time) :
    x.Orderly time := ⟨h.readable.later hle, h.rate⟩

theorem StableLoan.orderly_empty (now : Int) : ({} : StableLoan).Orderly now :=
  ⟨readable_empty now, Int.le_refl 0⟩

theorem StableLoan.orderly_of_now {x : StableLoan} (hprincipal : 0 ≤ x.principal)
    (hsince : x.since = now) (hrate : 0 ≤ x.rate) : x.Orderly now :=
  ⟨readable_of_now hprincipal fun _ => ⟨hsince, hrate⟩, hrate⟩

namespace Position

variable {pos : Position}

theorem orderly_empty (now : Int) (asset : Name) : ({ asset } : Position).Orderly now :=
  ⟨Int.le_refl 0, Int.le_refl 0, StableLoan.orderly_empty now⟩

theorem Orderly.later (h : pos.Orderly now) (hle : now ≤ time) : pos.Orderly time :=
  ⟨h.supply, h.floating, h.loan.later hle⟩

theorem Orderly.setSupply (h : pos.Orderly now) {scaled : Int} (hscaled : 0 ≤ scaled) :
    ({ pos with scaledBalance := scaled } : Position).Orderly now := ⟨hscaled, h.floating, h.loan⟩

theorem Orderly.setCollateral (h : pos.Orderly now) (enabled : Bool) :
    ({ pos with usedAsCollateral := enabled } : Position).Orderly now :=
  ⟨h.supply, h.floating, h.loan⟩

end Position

namespace Reserve

variable {r s : Reserve} {amount rate : Int}

theorem Orderly.growing (h : r.Orderly now) : Growing now r where
  rate := h.supplyRate
  income := Int.le_of_lt h.income
  debt := Int.le_of_lt h.debt
  updated := h.updated
  borrowRate := h.borrowRate
  strategy := h.serves.1.lawful

theorem Orderly.later (h : r.Orderly now) (hle : now ≤ time) : r.Orderly time :=
  { h with updated := Int.le_trans h.updated hle }

theorem Orderly.loan_now (h : r.Orderly now) : r.loan.Orderly now := h.loan.later h.updated

/-! ## Accruals -/

theorem Orderly.stableDebt_total (h : r.Orderly now) :
    ∃ debt, r.stableDebt now = .ok debt ∧ 0 ≤ debt := by
  obtain ⟨debt, hdebt⟩ := h.loan_now.readable
  exact ⟨debt, hdebt, StableLoan.debt_nonneg hdebt⟩

theorem previousStableDebt_total (h : r.loan.Readable r.lastUpdateTimestamp) :
    ∃ debt, r.previousStableDebt = .ok debt := by
  obtain ⟨debt, hdebt⟩ := h
  unfold previousStableDebt
  split
  · rename_i hsome
    unfold StableLoan.debt at hdebt
    rw [if_neg (show ¬ r.loan.principal = 0 from Int.ne_of_gt hsome)] at hdebt
    exact ⟨debt, hdebt⟩
  · exact ⟨0, rfl⟩

theorem Orderly.growLiquidityIndex_total (h : r.Orderly now) :
    ∃ s, growLiquidityIndex now r = .ok s ∧ s.Orderly now := by
  obtain ⟨s, hs⟩ : ∃ s, growLiquidityIndex now r = .ok s := by
    rcases Int.lt_or_eq_of_le h.updated with hlt | heq
    · exact ⟨_, growLiquidityIndex_ok hlt h.supplyRate (Int.le_of_lt h.income)⟩
    · rw [growLiquidityIndex, if_neg (by omega)]
      exact ⟨r, rfl⟩
  have hle := growLiquidityIndex_le h.growing.toRunning hs
  have heq := (growLiquidityIndex_income h.growing.toRunning hs).1
  refine ⟨s, hs, ?_⟩
  rw [heq]
  exact { h with income := Int.lt_of_lt_of_le h.income hle }

theorem Orderly.growDebtIndex_total (h : r.Orderly now) :
    ∃ s, growDebtIndex now r = .ok s ∧ s.Orderly now := by
  obtain ⟨s, hs⟩ : ∃ s, growDebtIndex now r = .ok s := by
    rcases Int.lt_or_eq_of_le h.updated with hlt | heq
    · exact ⟨_, growDebtIndex_ok hlt h.borrowRate (Int.le_of_lt h.debt)⟩
    · rw [growDebtIndex, if_neg (by omega)]
      exact ⟨r, rfl⟩
  have hle := growDebtIndex_le hs
  have heq := (growDebtIndex_debt hs).1
  refine ⟨s, hs, ?_⟩
  rw [heq]
  exact { h with debt := Int.lt_of_lt_of_le h.debt hle }

theorem Orderly.accruedInterest_total (h : r.Orderly now) {previous : Int}
    (hprevious : 0 ≤ previous) :
    ∃ interest, r.accruedInterest previous now = .ok interest := by
  obtain ⟨before, h₁, _⟩ := rayMul_total h.floating hprevious
  obtain ⟨after, h₂, _⟩ := rayMul_total h.floating (Int.le_of_lt h.debt)
  obtain ⟨stableBefore, h₃⟩ := previousStableDebt_total h.loan.readable
  obtain ⟨stableAfter, h₄, _⟩ := h.stableDebt_total
  simp only [accruedInterest, h₁, h₂, h₃, h₄, ok_bind]
  exact ⟨_, rfl⟩

theorem Orderly.creditTreasury_total (h : r.Orderly now) {previous : Int}
    (hprevious : 0 ≤ previous) :
    ∃ s, creditTreasury previous now r = .ok s ∧ s.Orderly now := by
  obtain ⟨s, hs⟩ : ∃ s, creditTreasury previous now r = .ok s := by
    unfold creditTreasury
    split
    · obtain ⟨interest, hinterest⟩ := h.accruedInterest_total hprevious
      obtain ⟨share, hshare, _⟩ :=
        percentMul_total (show 0 ≤ max interest 0 by omega) h.config.reserveFactor
      rw [hinterest, ok_bind, hshare, ok_bind]
      split
      · rename_i hpos
        obtain ⟨scaled, hscaled, _⟩ := rayDiv_total (Int.le_of_lt hpos) h.income
        rw [hscaled, ok_bind]
        exact ⟨_, rfl⟩
      · exact ⟨r, rfl⟩
    · exact ⟨r, rfl⟩
  have heq := creditTreasury_eq hs
  have hcredit := Int.le_trans h.credit (creditTreasury_accrued hs).credit
  refine ⟨s, hs, ?_⟩
  rw [heq]
  exact { h with credit := hcredit }

theorem Orderly.rateInput_nonneg (h : r.Orderly now) {stable floating : Int} (hs : 0 ≤ stable)
    (hf : 0 ≤ floating) : (r.rateInput stable floating).NonNegative :=
  ⟨h.liquidity, hs, hf, h.loan.rate, h.config.reserveFactor⟩

theorem Orderly.deriveRates_answers (hrefused : ∀ cause, faults (.refused cause))
    (h : r.Orderly now) : Answers faults (fun s => s.Orderly now) (deriveRates now r) := by
  obtain ⟨stable, h₁, hstable⟩ := h.stableDebt_total
  obtain ⟨floating, h₂, hfloating⟩ := rayMul_total h.floating (Int.le_of_lt h.debt)
  have hstored : r.storedVariableDebt = .ok floating := h₂
  unfold deriveRates derivedRates
  rw [h₁, ok_bind, hstored, ok_bind]
  apply (h.serves.rates_answers hrefused (h.rateInput_nonneg hstable hfloating)).andThen
  intro rates hrates
  exact { h with
    supplyRate := hrates.liquidityRate
    stableRate := hrates.stableBorrowRate
    borrowRate := hrates.variableBorrowRate }

/-- A reserve in order that has been brought up to `now` and holds `x`. -/
structure Current (now x : Int) (r : Reserve) : Prop where
  orderly : r.Orderly now
  time : r.lastUpdateTimestamp = now
  liquidity : r.availableLiquidity = x

theorem Current.money {x change : Int} (h : r.Current now x) (hx : 0 ≤ x + change) :
    ({ r with availableLiquidity := r.availableLiquidity + change } : Reserve).Current now
      (x + change) := by
  have hliquidity : r.availableLiquidity + change = x + change := by rw [h.liquidity]
  exact ⟨{ h.orderly with liquidity := hliquidity ▸ hx }, h.time, hliquidity⟩

theorem Orderly.accrue_answers (hrefused : ∀ cause, faults (.refused cause)) (h : r.Orderly now) :
    Answers faults (fun s => s.Current now r.availableLiquidity ∧ s.asset = r.asset)
      (r.accrue now) := by
  have hanswers : Answers faults (fun s => s.Orderly now) (r.accrue now) := by
    have hbehind : requireNotBehind now r = .ok r := by
      rw [requireNotBehind, if_neg (Int.not_lt.2 h.updated)]
    obtain ⟨r₁, h₁, horderly₁⟩ := h.growLiquidityIndex_total
    obtain ⟨r₂, h₂, horderly₂⟩ := horderly₁.growDebtIndex_total
    obtain ⟨r₃, h₃, horderly₃⟩ := horderly₂.creditTreasury_total (Int.le_of_lt h.debt)
    unfold accrue accrualStages
    simp only [Stage.perform_cons, hbehind, h₁, h₂, h₃, ok_bind]
    apply (horderly₃.deriveRates_answers hrefused).andThen
    intro r₄ h₄
    exact { h₄ with loan := h₄.loan_now, updated := Int.le_refl now }
  apply hanswers.with_ok.mono
  rintro s ⟨hs, horderly⟩
  have haccrued := accrue_accrued hs
  exact ⟨⟨horderly, accrue_time hs, haccrued.availableLiquidity⟩, haccrued.asset⟩

theorem Orderly.current_of_accrue (h : r.Orderly now) (hs : r.accrue now = .ok s) :
    s.Current now r.availableLiquidity ∧ s.asset = r.asset := by
  have hanswers : Answers (fun _ => True)
      (fun s => s.Current now r.availableLiquidity ∧ s.asset = r.asset) (r.accrue now) :=
    h.accrue_answers fun _ => trivial
  rwa [hs] at hanswers

/-- What has been accrued has rates, so its strategy may be used with its reserve factor. -/
theorem serves_of_accrue (hstrategy : r.strategy.NonNegative) (h : r.accrue now = .ok s) :
    r.strategy.Serves r.config.reserveFactor := by
  refine ⟨hstrategy, fun k hk => ?_⟩
  have haccrued := accrue_accrued h
  have hfresh := accrue_fresh h
  simp only [Fresh, derivedRates, bind_ok_iff] at hfresh
  obtain ⟨_, _, _, _, hrates⟩ := hfresh
  rw [haccrued.strategy, hk] at hrates
  have hfactor := (Kinked.rates_input hrates).2
  rwa [← haccrued.config]

theorem opened_orderly {config : ReserveConfig} {strategy : RateStrategy}
    (hconfig : config.NonNegative)
    (hserves : strategy.Serves config.reserveFactor) (now : Int) :
    ({ asset := config.symbol, config, strategy, lastUpdateTimestamp := now } :
      Reserve).Orderly now where
  config := hconfig
  serves := hserves
  supplyRate := Int.le_refl 0
  stableRate := Int.le_refl 0
  borrowRate := Int.le_refl 0
  income := ray_pos
  debt := ray_pos
  floating := Int.le_refl 0
  loan := StableLoan.orderly_empty now
  liquidity := Int.le_refl 0
  credit := Int.le_refl 0
  updated := Int.le_refl now

end Reserve

end MoneyMarket
