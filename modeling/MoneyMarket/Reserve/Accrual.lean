import MoneyMarket.Reserve

/-!
# Accrual

Bringing a reserve up to a time: the indices grow, the treasury is credited its share of the new
interest, and the rates are derived anew. At the time of the last update only the rates are
derived.
-/

namespace MoneyMarket.Reserve

open MoneyMarket.FixedPoint MoneyMarket.Interest

def rateInput (r : Reserve) (stableDebt variableDebt : Int) : RateInput where
  availableLiquidity := r.availableLiquidity
  totalStableDebt := stableDebt
  totalVariableDebt := variableDebt
  averageStableRate := r.averageStableRate
  reserveFactor := r.config.reserveFactor

def derivedRates (r : Reserve) (now : Int) : Except Fault InterestRates := do
  r.strategy.rates (r.rateInput (← r.stableDebt now) (← r.storedVariableDebt))

/-! ## Stages -/

def requireNotBehind (now : Int) : Stage Reserve := fun r =>
  if now < r.lastUpdateTimestamp then
    .error (.invalid (.accrualBackwards r.asset now r.lastUpdateTimestamp))
  else .ok r

def growLiquidityIndex (now : Int) : Stage Reserve := fun r => do
  if r.lastUpdateTimestamp < now ∧ 0 < r.currentLiquidityRate then
    let factor ← linearFactor r.currentLiquidityRate r.lastUpdateTimestamp now
    return { r with liquidityIndex := ← rayMul factor r.liquidityIndex }
  else return r

def growDebtIndex (now : Int) : Stage Reserve := fun r => do
  if r.lastUpdateTimestamp < now ∧ 0 < r.scaledVariableDebt then
    let factor ← compoundedFactor r.currentVariableBorrowRate r.lastUpdateTimestamp now
    return { r with variableBorrowIndex := ← rayMul factor r.variableBorrowIndex }
  else return r

def previousStableDebt (r : Reserve) : Except Fault Int := do
  if 0 < r.principalStableDebt then
    let factor ←
      compoundedFactor r.averageStableRate r.stableDebtTimestamp r.lastUpdateTimestamp
    rayMul r.principalStableDebt factor
  else return 0

/-- The interest on all debts since the last update, by the debt index of that time. -/
def accruedInterest (previousIndex now : Int) (r : Reserve) : Except Fault Int := do
  let previousVariable ← rayMul r.scaledVariableDebt previousIndex
  let currentVariable ← rayMul r.scaledVariableDebt r.variableBorrowIndex
  let previousStable ← r.previousStableDebt
  let currentStable ← r.stableDebt now
  return currentVariable + currentStable - previousVariable - previousStable

def creditTreasury (previousIndex now : Int) : Stage Reserve := fun r => do
  if r.lastUpdateTimestamp < now ∧ r.config.reserveFactor ≠ 0 then
    let interest ← r.accruedInterest previousIndex now
    let share ← percentMul (max interest 0) r.config.reserveFactor
    if 0 < share then
      let scaled ← rayDiv share r.liquidityIndex
      return { r with
        accruedToTreasury := r.accruedToTreasury + scaled
        scaledTotalSupply := r.scaledTotalSupply + scaled }
    else return r
  else return r

def deriveRates (now : Int) : Stage Reserve := fun r => do
  let rates ← r.derivedRates now
  return { r with
    currentLiquidityRate := rates.liquidityRate
    currentStableBorrowRate := rates.stableBorrowRate
    currentVariableBorrowRate := rates.variableBorrowRate }

def stamp (now : Int) : Stage Reserve := fun r => .ok { r with lastUpdateTimestamp := now }

def accrualStages (r : Reserve) (now : Int) : List (Stage Reserve) :=
  [requireNotBehind now, growLiquidityIndex now, growDebtIndex now,
    creditTreasury r.variableBorrowIndex now, deriveRates now, stamp now]

def accrue (r : Reserve) (now : Int) : Except Fault Reserve :=
  Stage.perform (r.accrualStages now) r

end MoneyMarket.Reserve
