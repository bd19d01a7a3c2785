import MoneyMarket.Interest
import MoneyMarket.Progress
import MoneyMarket.Rates.Strategy
import MoneyMarket.Reserve.Config

/-!
# Reserves and positions

A reserve holds the money of one asset. Supplies and variable debts are kept divided by an index
that grows with interest, so that a balance grows while its stored amount stands. Stable debts are
kept as the principal at the time they last changed.
-/

namespace MoneyMarket

open MoneyMarket.FixedPoint MoneyMarket.Interest

structure Reserve where
  asset : Name
  config : ReserveConfig
  strategy : RateStrategy
  active : Bool := true
  frozen : Bool := false
  paused : Bool := false
  liquidityIndex : Int := ray
  variableBorrowIndex : Int := ray
  currentLiquidityRate : Int := 0
  currentVariableBorrowRate : Int := 0
  currentStableBorrowRate : Int := 0
  principalStableDebt : Int := 0
  averageStableRate : Int := 0
  stableDebtTimestamp : Int := 0
  scaledVariableDebt : Int := 0
  scaledTotalSupply : Int := 0
  availableLiquidity : Int := 0
  /-- The share of the treasury that is not yet on its position, scaled. -/
  accruedToTreasury : Int := 0
  lastUpdateTimestamp : Int := 0
  deriving DecidableEq

structure Position where
  asset : Name
  scaledBalance : Int := 0
  scaledVariableDebt : Int := 0
  principalStableDebt : Int := 0
  stableRate : Int := 0
  stableTimestamp : Int := 0
  usedAsCollateral : Bool := false
  deriving DecidableEq, Repr, Inhabited

namespace Reserve

/-! ## Guards -/

def requireActive (r : Reserve) : Except Fault Unit :=
  if r.active then .ok () else .error (.refused (.inactiveReserve r.asset))

def requireNotFrozen (r : Reserve) : Except Fault Unit :=
  if r.frozen then .error (.refused (.frozenReserve r.asset)) else .ok ()

def requireNotPaused (r : Reserve) : Except Fault Unit :=
  if r.paused then .error (.refused (.pausedReserve r.asset)) else .ok ()

/-! ## Projections

What the indices and debts will be at a time, without changing the reserve. -/

def normalizedIncome (r : Reserve) (now : Int) : Except Fault Int := do
  if now ≤ r.lastUpdateTimestamp then return r.liquidityIndex
  else
    let factor ← linearFactor r.currentLiquidityRate r.lastUpdateTimestamp now
    rayMul factor r.liquidityIndex

def normalizedDebt (r : Reserve) (now : Int) : Except Fault Int := do
  if now ≤ r.lastUpdateTimestamp then return r.variableBorrowIndex
  else
    let factor ← compoundedFactor r.currentVariableBorrowRate r.lastUpdateTimestamp now
    rayMul factor r.variableBorrowIndex

def storedVariableDebt (r : Reserve) : Except Fault Int :=
  rayMul r.scaledVariableDebt r.variableBorrowIndex

def variableDebt (r : Reserve) (now : Int) : Except Fault Int := do
  rayMul r.scaledVariableDebt (← r.normalizedDebt now)

def stableDebt (r : Reserve) (now : Int) : Except Fault Int := do
  if r.principalStableDebt = 0 then return 0
  else
    let factor ← compoundedFactor r.averageStableRate r.stableDebtTimestamp now
    rayMul r.principalStableDebt factor

def totalDebt (r : Reserve) (now : Int) : Except Fault Int := do
  return (← r.stableDebt now) + (← r.variableDebt now)

def utilization (r : Reserve) (now : Int) : Except Fault Int := do
  MoneyMarket.utilization r.availableLiquidity (← r.totalDebt now)

end Reserve

namespace Position

/-! ## Balances of a position -/

def supplyBalance (p : Position) (r : Reserve) (now : Int) : Except Fault Int := do
  if p.scaledBalance = 0 then return 0
  else rayMul p.scaledBalance (← r.normalizedIncome now)

def variableDebt (p : Position) (r : Reserve) (now : Int) : Except Fault Int := do
  if p.scaledVariableDebt = 0 then return 0
  else rayMul p.scaledVariableDebt (← r.normalizedDebt now)

def stableDebt (p : Position) (now : Int) : Except Fault Int := do
  if p.principalStableDebt = 0 then return 0
  else rayMul p.principalStableDebt (← compoundedFactor p.stableRate p.stableTimestamp now)

def isBorrowing (p : Position) : Bool := 0 < p.scaledVariableDebt || 0 < p.principalStableDebt

end Position

end MoneyMarket
