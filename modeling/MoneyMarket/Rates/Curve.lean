import MoneyMarket.Rates.Strategy

/-!
# Rate curves in binary64

The borrow and supply rates as functions of utilization, for plots and reports: parameters are
divided by a ray once and the formulas are evaluated in binary64, in the order written. A curve of
the kinked strategy has no quotient that can fail; the governed one divides by `1 - η`, which may
round to zero.
-/

namespace MoneyMarket

open MoneyMarket.FixedPoint

inductive CurveFault where
  | fault (cause : Fault)
  /-- The kinked borrow curve does not depend on a reserve factor. -/
  | needlessReserveFactor

abbrev Curve := Float → Float

namespace Curve

def lift {α : Type} : Except Fault α → Except CurveFault α
  | .ok a => .ok a
  | .error f => .error (.fault f)

def quotient (num : Int) (den : Int) : Except CurveFault Float :=
  match Binary64.quotient? num den.toNat with
  | some x => .ok x
  | none => .error (.fault .tooLarge)

def ofRay (v : Int) : Except CurveFault Float := quotient v ray

def divide (x y : Float) : Except CurveFault Float :=
  if y == 0.0 then .error (.fault .divisionByZero) else .ok (x / y)

end Curve

open Curve

namespace Kinked

def borrowCurve (k : Kinked) : Except CurveFault Curve := do
  let optimal ← ofRay k.optimalUtilization
  let base ← ofRay k.baseVariableRate
  let slope1 ← ofRay k.variableSlope1
  let slope2 ← ofRay k.variableSlope2
  return fun u =>
    if u ≤ optimal then if 0.0 < optimal then base + slope1 * (u / optimal) else base
    else base + slope1 + slope2 * ((u - optimal) / (1.0 - optimal))

def supplyCurve (k : Kinked) (reserveFactor : Int) : Except CurveFault Curve := do
  let borrow ← k.borrowCurve
  let kept := 1.0 - (← quotient reserveFactor whole)
  return fun u => borrow u * u * kept

end Kinked

namespace Governed

def fractions (g : Governed) (reserveFactor : Int) :
    Except CurveFault (Float × Float × Float × Float) := do
  let eta ← ofRay (← lift (g.modelFactor reserveFactor))
  let a ← ofRay g.intercept
  let m ← ofRay g.slope
  let q ← ofRay g.shockProbability
  return (a, m, q, eta)

def borrowCurve (g : Governed) (reserveFactor : Int) : Except CurveFault Curve := do
  let (a, m, q, eta) ← g.fractions reserveFactor
  let surcharge ← divide (eta * q) (1.0 - eta)
  return fun u => a + m * (1.0 + surcharge) * u

def supplyCurve (g : Governed) (reserveFactor : Int) : Except CurveFault Curve := do
  let (a, m, q, eta) ← g.fractions reserveFactor
  let steep ← divide m (1.0 - eta)
  return fun u => u * ((1.0 - q) * (a + m * u) + q * (1.0 - eta) * (a + steep))

end Governed

namespace RateStrategy

/-- The borrow curve; without a reserve factor a governed one takes zero. -/
def borrowCurve (s : RateStrategy) (reserveFactor : Option Int) : Except CurveFault Curve :=
  match s with
  | kinked k => if reserveFactor.isSome then .error .needlessReserveFactor else k.borrowCurve
  | governed g => g.borrowCurve (reserveFactor.getD 0)

def supplyCurve (s : RateStrategy) (reserveFactor : Option Int) : Except CurveFault Curve :=
  match s with
  | kinked k => k.supplyCurve (reserveFactor.getD 0)
  | governed g => g.supplyCurve (reserveFactor.getD 0)

end RateStrategy

end MoneyMarket
