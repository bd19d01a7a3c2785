import MoneyMarket.FixedPoint

/-!
# Utilization and interest rates

What a reserve's rates are derived from, the share of its money that is lent out, and the rates
themselves, in ray per year.
-/

namespace MoneyMarket

open MoneyMarket.FixedPoint

structure RateInput where
  availableLiquidity : Int
  totalStableDebt : Int
  totalVariableDebt : Int
  averageStableRate : Int
  reserveFactor : Int
  deriving DecidableEq, Repr

structure InterestRates where
  liquidityRate : Int
  stableBorrowRate : Int
  variableBorrowRate : Int
  deriving DecidableEq, Repr

def requireInput (name : String) (value : Int) : Except Fault Unit :=
  if value < 0 then .error (.invalid (.negativeInput name value)) else .ok ()

namespace RateInput

def totalDebt (s : RateInput) : Int := s.totalStableDebt + s.totalVariableDebt

def NonNegative (s : RateInput) : Prop :=
  0 ≤ s.availableLiquidity ∧ 0 ≤ s.totalStableDebt ∧ 0 ≤ s.totalVariableDebt ∧
    0 ≤ s.averageStableRate ∧ 0 ≤ s.reserveFactor

def requireNonNegative (s : RateInput) : Except Fault Unit := do
  requireInput "available_liquidity" s.availableLiquidity
  requireInput "total_stable_debt" s.totalStableDebt
  requireInput "total_variable_debt" s.totalVariableDebt
  requireInput "average_stable_rate" s.averageStableRate
  requireInput "reserve_factor" s.reserveFactor

end RateInput

/-- The lent share of all money in the reserve, in ray; zero for a reserve without debt. -/
def utilization (availableLiquidity totalDebt : Int) : Except Fault Int := do
  requireInput "available_liquidity" availableLiquidity
  requireInput "total_debt" totalDebt
  if totalDebt = 0 then return 0 else rayDiv totalDebt (availableLiquidity + totalDebt)

def overallBorrowRate (stableDebt variableDebt variableRate averageStableRate : Int) :
    Except Fault Int := do
  if stableDebt + variableDebt = 0 then return 0
  else
    let weightedVariable ← rayMul (← wadToRay variableDebt) variableRate
    let weightedStable ← rayMul (← wadToRay stableDebt) averageStableRate
    rayDiv (weightedVariable + weightedStable) (← wadToRay (stableDebt + variableDebt))

end MoneyMarket
