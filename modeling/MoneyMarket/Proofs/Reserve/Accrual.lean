import MoneyMarket.Proofs.Interest
import MoneyMarket.Proofs.Rates
import MoneyMarket.Reserve.Accrual

/-!
# Accruals without stable debt

What an accrual makes of a reserve with a kinked strategy, no stable debt and current rates. No
stage fails, and none but the last two depends on how large the rates are.
-/

namespace MoneyMarket.Reserve

open MoneyMarket.FixedPoint MoneyMarket.Interest

variable {r : Reserve} {now : Int}

/-! ## Debts -/

theorem stableDebt_of_none (h : r.principalStableDebt = 0) (now : Int) : r.stableDebt now = .ok 0 := by
  rw [stableDebt, if_pos h]
  rfl

theorem previousStableDebt_of_none (h : r.principalStableDebt = 0) :
    r.previousStableDebt = .ok 0 := by
  rw [previousStableDebt, if_neg (by omega)]
  rfl

def debtAt (r : Reserve) (index : Int) : Int := mulRound ray halfRay r.scaledVariableDebt index

theorem storedVariableDebt_ok_iff {debt : Int} : r.storedVariableDebt = .ok debt ↔
    0 ≤ r.scaledVariableDebt ∧ 0 ≤ r.variableBorrowIndex ∧ r.debtAt r.variableBorrowIndex = debt :=
  rayMul_ok_iff

theorem debtAt_mono (h : 0 ≤ r.scaledVariableDebt) {index other : Int} (hle : index ≤ other) :
    r.debtAt index ≤ r.debtAt other := rayRound_mono h hle

/-! ## Stages -/

def nextLiquidityIndex (r : Reserve) (now : Int) : Int :=
  mulRound ray halfRay (linearAfter r.currentLiquidityRate (now - r.lastUpdateTimestamp))
    r.liquidityIndex

/-- The debt index after an accrual; without debt it stands. -/
def nextDebtIndex (r : Reserve) (now : Int) : Int :=
  if 0 < r.scaledVariableDebt then
    mulRound ray halfRay
      (compoundAfter r.currentVariableBorrowRate (now - r.lastUpdateTimestamp))
      r.variableBorrowIndex
  else r.variableBorrowIndex

theorem growLiquidityIndex_ok (hnow : r.lastUpdateTimestamp < now)
    (hrate : 0 ≤ r.currentLiquidityRate) (hindex : 0 ≤ r.liquidityIndex) :
    growLiquidityIndex now r = .ok { r with liquidityIndex := r.nextLiquidityIndex now } := by
  have hfactor := ray_le_linearAfter hrate (show 0 ≤ now - r.lastUpdateTimestamp by omega)
  unfold growLiquidityIndex nextLiquidityIndex
  split
  · rw [linearFactor_ok hrate (Int.le_of_lt hnow), ok_bind, rayMul,
      mulChecked_ok _ _ (nonneg_of_ray_le hfactor) hindex, ok_bind]
    rfl
  · rename_i hnone
    have hstands :
        linearAfter r.currentLiquidityRate (now - r.lastUpdateTimestamp) = ray := by
      rw [show r.currentLiquidityRate = 0 by omega, linearAfter_zero]
    rw [hstands, rayRound_one]
    rfl

theorem growDebtIndex_ok (hnow : r.lastUpdateTimestamp < now)
    (hrate : 0 ≤ r.currentVariableBorrowRate) (hindex : 0 ≤ r.variableBorrowIndex) :
    growDebtIndex now r = .ok { r with variableBorrowIndex := r.nextDebtIndex now } := by
  have hfactor := ray_le_compoundAfter hrate (show 0 ≤ now - r.lastUpdateTimestamp by omega)
  unfold growDebtIndex nextDebtIndex
  split
  · rename_i hsome
    rw [compoundedFactor_ok hrate (Int.le_of_lt hnow), ok_bind, rayMul,
      mulChecked_ok _ _ (nonneg_of_ray_le hfactor) hindex, ok_bind,
      if_pos hsome.2]
    rfl
  · rename_i hnone
    rw [if_neg fun h => hnone ⟨hnow, h⟩]
    rfl

theorem le_nextLiquidityIndex (hnow : r.lastUpdateTimestamp < now)
    (hrate : 0 ≤ r.currentLiquidityRate) (hindex : ray ≤ r.liquidityIndex) :
    ray ≤ r.nextLiquidityIndex now := by
  unfold nextLiquidityIndex
  rw [mulRound_comm]
  refine Int.le_trans hindex (le_rayRound ?_ (ray_le_linearAfter hrate (by omega)))
  exact nonneg_of_ray_le hindex

theorem le_nextDebtIndex (hnow : r.lastUpdateTimestamp < now)
    (hrate : 0 ≤ r.currentVariableBorrowRate) (hindex : 0 ≤ r.variableBorrowIndex) :
    r.variableBorrowIndex ≤ r.nextDebtIndex now := by
  unfold nextDebtIndex
  split
  · rw [mulRound_comm]
    exact le_rayRound hindex (ray_le_compoundAfter hrate (by omega))
  · exact Int.le_refl _

/-- What the treasury is credited of a growth of the debt, scaled. -/
def treasuryShare (growth factor index : Int) : Int :=
  divRound ray (mulRound whole halfWhole growth factor) index

theorem treasuryShare_nothing {growth factor index : Int} (hindex : 0 < index)
    (h : mulRound whole halfWhole growth factor = 0) : treasuryShare growth factor index = 0 := by
  rw [treasuryShare, h, divRound, Int.zero_mul, Int.zero_add]
  exact Int.ediv_eq_zero_of_lt (by omega) (by omega)

theorem creditTreasury_ok {previous : Int} (hnow : r.lastUpdateTimestamp < now)
    (hstable : r.principalStableDebt = 0) (hdebt : 0 ≤ r.scaledVariableDebt)
    (hprevious : 0 ≤ previous) (hgrown : previous ≤ r.variableBorrowIndex)
    (hfactor : 0 ≤ r.config.reserveFactor) (hindex : 0 < r.liquidityIndex) :
    creditTreasury previous now r = .ok { r with
      accruedToTreasury := r.accruedToTreasury + treasuryShare
        (r.debtAt r.variableBorrowIndex - r.debtAt previous) r.config.reserveFactor r.liquidityIndex
      scaledTotalSupply := r.scaledTotalSupply + treasuryShare
        (r.debtAt r.variableBorrowIndex - r.debtAt previous) r.config.reserveFactor
          r.liquidityIndex } := by
  have hgrowth : 0 ≤ r.debtAt r.variableBorrowIndex - r.debtAt previous := by
    have := debtAt_mono hdebt hgrown
    omega
  have hinterest : r.accruedInterest previous now =
      .ok (r.debtAt r.variableBorrowIndex - r.debtAt previous) := by
    simp only [accruedInterest, rayMul, mulChecked_ok _ _ hdebt hprevious,
      mulChecked_ok _ _ hdebt (Int.le_trans hprevious hgrown), previousStableDebt_of_none hstable,
      stableDebt_of_none hstable, ok_bind, Int.add_zero, Int.sub_zero]
    rfl
  have hmax : max (r.debtAt r.variableBorrowIndex - r.debtAt previous) 0 =
      r.debtAt r.variableBorrowIndex - r.debtAt previous := Int.max_eq_left hgrowth
  have hshare := percentRound_nonneg hgrowth hfactor
  unfold creditTreasury
  split
  · rw [hinterest, ok_bind, hmax, percentMul, mulChecked_ok _ _ hgrowth hfactor, ok_bind]
    split
    · rw [rayDiv, divChecked_ok _ _ hshare hindex, ok_bind]
      rfl
    · rename_i hzero
      rw [treasuryShare_nothing hindex (by omega), Int.add_zero, Int.add_zero]
      rfl
  -- time has passed, so there is no reserve factor
  · rename_i hnone
    have hzero : r.config.reserveFactor = 0 := by
      by_contra h
      exact hnone ⟨hnow, h⟩
    have hnothing : mulRound whole halfWhole
        (r.debtAt r.variableBorrowIndex - r.debtAt previous) 0 = 0 := by
      rw [mulRound, Int.mul_zero]
      decide
    rw [hzero, treasuryShare_nothing hindex hnothing, Int.add_zero, Int.add_zero]
    rfl

/-! ## The whole accrual -/

/-- A reserve whose rates are those its kinked strategy gives to its state. -/
structure AtKinkedRates (r : Reserve) (k : Kinked) : Prop where
  strategy : r.strategy = .kinked k
  params : k.NonNegative
  noStableDebt : r.principalStableDebt = 0
  ray_le_liquidityIndex : ray ≤ r.liquidityIndex
  ray_le_debtIndex : ray ≤ r.variableBorrowIndex
  rates : r.derivedRates r.lastUpdateTimestamp = .ok
    ⟨r.currentLiquidityRate, r.currentStableBorrowRate, r.currentVariableBorrowRate⟩

namespace AtKinkedRates

variable {k : Kinked}

theorem rates_input (h : r.AtKinkedRates k) :
    0 ≤ r.scaledVariableDebt ∧
    (r.rateInput 0 (r.debtAt r.variableBorrowIndex)).NonNegative ∧
    r.config.reserveFactor ≤ whole ∧
    k.rates (r.rateInput 0 (r.debtAt r.variableBorrowIndex)) = .ok
      ⟨r.currentLiquidityRate, r.currentStableBorrowRate, r.currentVariableBorrowRate⟩ := by
  have hrates := h.rates
  simp only [derivedRates, stableDebt_of_none h.noStableDebt, ok_bind, bind_ok_iff,
    storedVariableDebt_ok_iff, h.strategy, RateStrategy.rates] at hrates
  obtain ⟨debt, ⟨hscaled, _, rfl⟩, hrates⟩ := hrates
  have hinput := Kinked.rates_input hrates
  exact ⟨hscaled, hinput.1, hinput.2, hrates⟩

theorem rates_eq (h : r.AtKinkedRates k) :
    0 ≤ r.currentVariableBorrowRate ∧
    r.currentLiquidityRate = Kinked.supplyRate (r.rateInput 0 (r.debtAt r.variableBorrowIndex))
      r.currentVariableBorrowRate := by
  obtain ⟨_, hinput, hfactor, hrates⟩ := h.rates_input
  obtain ⟨variableRate, stableRate, hv, _, hok⟩ := Kinked.rates_ok h.params hinput hfactor
  rw [hok, Except.ok.injEq, InterestRates.mk.injEq] at hrates
  obtain ⟨hliquidity, -, rfl⟩ := hrates
  exact ⟨hv, hliquidity.symm⟩

theorem liquidityRate_nonneg (h : r.AtKinkedRates k) : 0 ≤ r.currentLiquidityRate := by
  obtain ⟨_, hinput, hfactor, _⟩ := h.rates_input
  rw [h.rates_eq.2]
  exact Kinked.supplyRate_nonneg hinput hfactor h.rates_eq.1

end AtKinkedRates

def grown (r : Reserve) (now : Int) : Reserve :=
  let share := treasuryShare (r.debtAt (r.nextDebtIndex now) - r.debtAt r.variableBorrowIndex)
    r.config.reserveFactor (r.nextLiquidityIndex now)
  { r with
    liquidityIndex := r.nextLiquidityIndex now
    variableBorrowIndex := r.nextDebtIndex now
    accruedToTreasury := r.accruedToTreasury + share
    scaledTotalSupply := r.scaledTotalSupply + share }

theorem AtKinkedRates.grown_rates {k : Kinked} (h : r.AtKinkedRates k)
    (hnow : r.lastUpdateTimestamp < now) : ∃ rates, (r.grown now).derivedRates now = .ok rates := by
  obtain ⟨hscaled, hinput, hfactor, _⟩ := h.rates_input
  have hindex := nonneg_of_ray_le h.ray_le_debtIndex
  have hnext := Int.le_trans hindex (le_nextDebtIndex hnow h.rates_eq.1 hindex)
  have hdebt : 0 ≤ (r.grown now).debtAt (r.nextDebtIndex now) :=
    rayRound_nonneg hscaled hnext
  have hstored : (r.grown now).storedVariableDebt =
      .ok ((r.grown now).debtAt (r.nextDebtIndex now)) :=
    storedVariableDebt_ok_iff.2 ⟨hscaled, hnext, rfl⟩
  obtain ⟨ha, hs, _, hsr, hf0⟩ := hinput
  obtain ⟨_, _, _, _, hok⟩ := Kinked.rates_ok
    (s := (r.grown now).rateInput 0 ((r.grown now).debtAt (r.nextDebtIndex now))) h.params
    ⟨ha, hs, hdebt, hsr, hf0⟩ hfactor
  have hstrategy : (r.grown now).strategy = .kinked k := h.strategy
  have hnone : (r.grown now).principalStableDebt = 0 := h.noStableDebt
  rw [derivedRates, stableDebt_of_none hnone, ok_bind, hstored, ok_bind, hstrategy]
  exact ⟨_, hok⟩

/-- The accrual is done, and besides rates and time it changes what has grown. -/
theorem AtKinkedRates.accrue_ok {k : Kinked} (h : r.AtKinkedRates k)
    (hnow : r.lastUpdateTimestamp < now) : ∃ rates : InterestRates, r.accrue now = .ok
      { r.grown now with
        currentLiquidityRate := rates.liquidityRate
        currentStableBorrowRate := rates.stableBorrowRate
        currentVariableBorrowRate := rates.variableBorrowRate
        lastUpdateTimestamp := now } := by
  obtain ⟨hscaled, hinput, _, _⟩ := h.rates_input
  have hrate := h.rates_eq.1
  have hli := nonneg_of_ray_le h.ray_le_liquidityIndex
  have hvi := nonneg_of_ray_le h.ray_le_debtIndex
  have hnext : 0 < r.nextLiquidityIndex now := Int.lt_of_lt_of_le ray_pos
    (le_nextLiquidityIndex hnow h.liquidityRate_nonneg h.ray_le_liquidityIndex)
  obtain ⟨rates, hrates⟩ := h.grown_rates hnow
  refine ⟨rates, ?_⟩
  have hbehind : requireNotBehind now r = .ok r := by
    rw [requireNotBehind, if_neg (by omega)]
  have hliquidity := growLiquidityIndex_ok hnow h.liquidityRate_nonneg hli
  have hdebt := growDebtIndex_ok (r := { r with liquidityIndex := r.nextLiquidityIndex now }) hnow
    hrate hvi
  have hcredit := creditTreasury_ok
    (r := { r with
      liquidityIndex := r.nextLiquidityIndex now
      variableBorrowIndex := r.nextDebtIndex now }) hnow h.noStableDebt hscaled hvi
    (le_nextDebtIndex hnow hrate hvi) hinput.2.2.2.2 hnext
  have hderive : deriveRates now (r.grown now) = .ok { r.grown now with
      currentLiquidityRate := rates.liquidityRate
      currentStableBorrowRate := rates.stableBorrowRate
      currentVariableBorrowRate := rates.variableBorrowRate } := by
    rw [deriveRates, hrates]
    rfl
  unfold accrue accrualStages
  refine Stage.perform_cons_ok.2 ⟨_, hbehind, ?_⟩
  refine Stage.perform_cons_ok.2 ⟨_, hliquidity, ?_⟩
  refine Stage.perform_cons_ok.2 ⟨_, hdebt, ?_⟩
  refine Stage.perform_cons_ok.2 ⟨_, hcredit, ?_⟩
  exact Stage.perform_cons_ok.2 ⟨_, hderive, rfl⟩

end MoneyMarket.Reserve
