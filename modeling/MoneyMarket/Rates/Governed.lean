import MoneyMarket.Rates

/-!
# The governed strategy

A linear curve `a + m · u` with a surcharge for the chance `q` that suppliers withdraw in a shock.
With `η` the reserve factor of the model, borrowers pay `a + m · (1 + η · q / (1 - η)) · u`, and
suppliers earn `u · ((1 - q) · (a + m · u) + q · (1 - η) · (a + m / (1 - η)))`. The stable rate
steps up above each of two kinks. One address may change `a`, `m` and `q`.
-/

namespace MoneyMarket

open MoneyMarket.FixedPoint

structure GovernedParams where
  /-- The rate at zero utilization, `a`. -/
  intercept : Int := 100000000000000000000000000
  /-- How strongly rates follow utilization, `m`. -/
  slope : Int := 80000000000000000000000000
  /-- The probability of a withdrawal shock, `q`. -/
  shockProbability : Int := 300000000000000000000000000
  /-- The reserve factor of the model, `η`; the reserve's own where there is none. -/
  modelReserveFactor : Option Int := some 500000000000000000000000000
  baseStableRate : Int := 39000000000000000000000000
  stableSlope1 : Int := 20000000000000000000000000
  stableSlope2 : Int := 600000000000000000000000000
  stableKinkLow : Int := 500000000000000000000000000
  stableKinkHigh : Int := 900000000000000000000000000
  governance : String := "governance"
  deriving DecidableEq, Repr

/-- Parameters whose tunable values are not negative. -/
structure Governed extends GovernedParams where
  intercept_nonneg : 0 ≤ intercept
  slope_nonneg : 0 ≤ slope
  shockProbability_nonneg : 0 ≤ shockProbability
  deriving DecidableEq

inductive GovernedSetting where
  | intercept
  | slope
  | shockProbability
  deriving DecidableEq, Repr

def GovernedSetting.name : GovernedSetting → String
  | intercept => "intercept"
  | slope => "slope"
  | shockProbability => "withdrawal_shock_probability"

namespace Governed

def ofParams (p : GovernedParams) : Except Fault Governed :=
  if ha : p.intercept < 0 then .error (.invalid (.negativeInput "intercept" p.intercept))
  else if hm : p.slope < 0 then .error (.invalid (.negativeInput "slope" p.slope))
  else if hq : p.shockProbability < 0 then
    .error (.invalid (.negativeInput "withdrawal_shock_probability" p.shockProbability))
  else .ok { p with
    intercept_nonneg := Int.not_lt.1 ha
    slope_nonneg := Int.not_lt.1 hm
    shockProbability_nonneg := Int.not_lt.1 hq }

def set (g : Governed) (setting : GovernedSetting) (caller : String) (value : Int) :
    Except Fault Governed :=
  if caller ≠ g.governance then .error (.refused .notGovernance)
  else if h : value < 0 then .error (.invalid (.negativeInput setting.name value))
  else match setting with
    | .intercept => .ok { g with intercept := value, intercept_nonneg := Int.not_lt.1 h }
    | .slope => .ok { g with slope := value, slope_nonneg := Int.not_lt.1 h }
    | .shockProbability =>
      .ok { g with shockProbability := value, shockProbability_nonneg := Int.not_lt.1 h }

/-- The reserve factor `η` of the model, which leaves something over. -/
def modelFactor (g : Governed) (reserveFactor : Int) : Except Fault Int := do
  let eta ← match g.modelReserveFactor with
    | some eta => pure eta
    | none => bpsToRay reserveFactor
  if ray ≤ eta then throw (.refused .modelFactorTooHigh)
  return eta

def stableRate (g : Governed) (u : Int) : Int :=
  g.baseStableRate + (if g.stableKinkLow < u then g.stableSlope1 else 0) +
    (if g.stableKinkHigh < u then g.stableSlope2 else 0)

def variableRate (g : Governed) (eta u : Int) : Except Fault Int := do
  let multiplier := ray + (← rayDiv (← rayMul eta g.shockProbability) (ray - eta))
  return g.intercept + (← rayMul (← rayMul g.slope multiplier) u)

def liquidityRate (g : Governed) (eta u : Int) : Except Fault Int := do
  let q := g.shockProbability
  let calm ← rayMul (ray - q) (g.intercept + (← rayMul g.slope u))
  let shock ← rayMul (← rayMul q (ray - eta)) (g.intercept + (← rayDiv g.slope (ray - eta)))
  rayMul u (calm + shock)

def rates (g : Governed) (s : RateInput) : Except Fault InterestRates := do
  s.requireNonNegative
  if ray < g.shockProbability then throw (.refused .shockAboveWhole)
  let eta ← g.modelFactor s.reserveFactor
  let u ← utilization s.availableLiquidity s.totalDebt
  let variableRate ← g.variableRate eta u
  let liquidityRate ← g.liquidityRate eta u
  return ⟨liquidityRate, g.stableRate u, variableRate⟩

end Governed

end MoneyMarket
