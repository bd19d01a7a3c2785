import MoneyMarket.Rates

/-!
# The kinked strategy

Rates rise along one slope up to the optimal utilization and along a steeper one above it. The
variable rate is `base + slope1 · u / optimal` below the kink and
`base + slope1 + slope2 · (u - optimal) / (1 - optimal)` above it; the stable rate rises the same
way below and is constant above. Suppliers earn the average borrow rate on the lent share, less the
reserve factor.
-/

namespace MoneyMarket

open MoneyMarket.FixedPoint

structure KinkedParams where
  optimalUtilization : Int
  baseVariableRate : Int
  variableSlope1 : Int
  variableSlope2 : Int
  stableSlope1 : Int
  stableSlope2 : Int
  baseStableRate : Int
  deriving DecidableEq, Repr

/-- Parameters whose kink lies within zero and full utilization. -/
structure Kinked extends KinkedParams where
  optimal_nonneg : 0 ≤ optimalUtilization
  optimal_le_ray : optimalUtilization ≤ ray
  deriving DecidableEq

namespace Kinked

def ofParams (p : KinkedParams) : Except Fault Kinked :=
  if h : 0 ≤ p.optimalUtilization ∧ p.optimalUtilization ≤ ray then
    .ok { p with optimal_nonneg := h.1, optimal_le_ray := h.2 }
  else .error (.invalid .optimalUtilizationOutside)

def borrowRates (k : Kinked) (u : Int) : Except Fault (Int × Int) := do
  if k.optimalUtilization < u then
    let excess ← rayDiv (u - k.optimalUtilization) (ray - k.optimalUtilization)
    let variableRate := k.baseVariableRate + k.variableSlope1 + (← rayMul k.variableSlope2 excess)
    return (variableRate, k.baseStableRate + (k.stableSlope1 + k.stableSlope2))
  else if u = 0 then return (k.baseVariableRate, k.baseStableRate)
  else
    let variableRise ← rayDiv (← rayMul u k.variableSlope1) k.optimalUtilization
    let stableRise ← rayDiv (← rayMul u k.stableSlope1) k.optimalUtilization
    return (k.baseVariableRate + variableRise, k.baseStableRate + stableRise)

def rates (k : Kinked) (s : RateInput) : Except Fault InterestRates := do
  s.requireNonNegative
  if whole < s.reserveFactor then throw (.invalid .reserveFactorTooHigh)
  let u ← utilization s.availableLiquidity s.totalDebt
  let (variableRate, stableRate) ← k.borrowRates u
  let overall ← overallBorrowRate s.totalStableDebt s.totalVariableDebt variableRate
    s.averageStableRate
  let liquidityRate ← percentMul (← rayMul overall u) (whole - s.reserveFactor)
  return ⟨liquidityRate, stableRate, variableRate⟩

end Kinked

/-! ## Shipped curves -/

namespace KinkedParams

def stableTwo : KinkedParams where
  optimalUtilization := 800000000000000000000000000
  baseVariableRate := 0
  variableSlope1 := 40000000000000000000000000
  variableSlope2 := 750000000000000000000000000
  stableSlope1 := 20000000000000000000000000
  stableSlope2 := 750000000000000000000000000
  baseStableRate := 39000000000000000000000000

def stableThree : KinkedParams where
  optimalUtilization := 800000000000000000000000000
  baseVariableRate := 50000000000000000000000000
  variableSlope1 := 65000000000000000000000000
  variableSlope2 := 1000000000000000000000000000
  stableSlope1 := 20000000000000000000000000
  stableSlope2 := 600000000000000000000000000
  baseStableRate := 39000000000000000000000000

def weth : KinkedParams where
  optimalUtilization := 650000000000000000000000000
  baseVariableRate := 0
  variableSlope1 := 90000000000000000000000000
  variableSlope2 := 1500000000000000000000000000
  stableSlope1 := 100000000000000000000000000
  stableSlope2 := 1000000000000000000000000000
  baseStableRate := 30000000000000000000000000

def shipped : List (String × KinkedParams) :=
  [("rateStrategyStableTwo", stableTwo), ("rateStrategyStableThree", stableThree),
    ("rateStrategyWETH", weth)]

end KinkedParams

namespace Kinked

def stableTwo : Kinked := ⟨.stableTwo, by decide, by decide⟩

def weth : Kinked := ⟨.weth, by decide, by decide⟩

end Kinked

end MoneyMarket
