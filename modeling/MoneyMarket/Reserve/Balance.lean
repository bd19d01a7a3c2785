import MoneyMarket.Reserve

/-!
# Supplies and debts

Amounts move between a reserve and a position at the stored indices, which must be current. Taking
out at least the displayed balance takes all of the stored one; taking less never takes more than
is stored.
-/

namespace MoneyMarket.Reserve

open MoneyMarket.FixedPoint MoneyMarket.Interest

abbrev WithPosition := Reserve × Position

/-- The part of a stored amount that stands for `amount`. -/
def scaledShare (stored index amount : Int) : Except Fault Int := do
  let balance ← rayMul stored index
  if balance ≤ amount then return stored else return min (← rayDiv amount index) stored

/-! ## Supply -/

def mintSupply (r : Reserve) (p : Position) (amount : Int) : Except Fault WithPosition := do
  let scaled ← rayDiv amount r.liquidityIndex
  return ({ r with scaledTotalSupply := r.scaledTotalSupply + scaled },
    { p with scaledBalance := p.scaledBalance + scaled })

def burnSupply (r : Reserve) (p : Position) (amount : Int) : Except Fault WithPosition := do
  let scaled ← scaledShare p.scaledBalance r.liquidityIndex amount
  return ({ r with scaledTotalSupply := max (r.scaledTotalSupply - scaled) 0 },
    { p with scaledBalance := p.scaledBalance - scaled })

def transferShare (r : Reserve) (source : Position) (amount : Int) : Except Fault Int :=
  scaledShare source.scaledBalance r.liquidityIndex amount

/-! ## Variable debt -/

def mintVariableDebt (r : Reserve) (p : Position) (amount : Int) : Except Fault WithPosition := do
  let scaled ← rayDiv amount r.variableBorrowIndex
  return ({ r with scaledVariableDebt := r.scaledVariableDebt + scaled },
    { p with scaledVariableDebt := p.scaledVariableDebt + scaled })

def burnVariableDebt (r : Reserve) (p : Position) (amount : Int) : Except Fault WithPosition := do
  let scaled ← scaledShare p.scaledVariableDebt r.variableBorrowIndex amount
  return ({ r with scaledVariableDebt := max (r.scaledVariableDebt - scaled) 0 },
    { p with scaledVariableDebt := p.scaledVariableDebt - scaled })

/-! ## Stable debt

The reserve keeps one principal at the average rate, weighted by debt. -/

/-- The average rate of `total` at `rate` and `amount` at `otherRate`, for a sum of `next`. -/
def blendedRate (rate total otherRate amount next : Int) : Except Fault Int := do
  let kept ← rayMul rate (← wadToRay total)
  let added ← rayMul otherRate (← wadToRay amount)
  rayDiv (kept + added) (← wadToRay next)

def stableAfterAdding (r : Reserve) (total amount rate : Int) : Except Fault (Int × Int) := do
  let next := total + amount
  if next = 0 then return (next, 0)
  else return (next, ← blendedRate r.averageStableRate total rate amount next)

/-- The principal and average rate after removing `amount` at `rate`. Nothing is left when the
amount is all there is, or when its interest is all there is. -/
def stableAfterRemoving (r : Reserve) (total amount rate : Int) : Except Fault (Int × Int) := do
  if total ≤ amount then return (0, 0)
  else
    let next := total - amount
    let held ← rayMul r.averageStableRate (← wadToRay total)
    let removed ← rayMul rate (← wadToRay amount)
    if held ≤ removed then return (0, 0)
    else return (next, ← rayDiv (held - removed) (← wadToRay next))

def updateStableRate (r : Reserve) (change rate now : Int) : Except Fault Reserve := do
  if rate < 0 then throw (.invalid .negativeRateChange)
  let total ← r.stableDebt now
  let (principal, average) ←
    if 0 ≤ change then r.stableAfterAdding total change rate
    else r.stableAfterRemoving total (-change) rate
  return { r with
    principalStableDebt := principal
    averageStableRate := average
    stableDebtTimestamp := now }

/-- The position's part of new stable debt: its own rate is averaged with the new one. -/
def lendStable (amount rate now : Int) : Stage WithPosition := fun (r, p) => do
  let current ← p.stableDebt now
  let next := current + amount
  let average ← blendedRate p.stableRate current rate amount next
  return (r, { p with
    principalStableDebt := next
    stableRate := average
    stableTimestamp := now })

def averageInStable (amount rate now : Int) : Stage WithPosition := fun (r, p) => do
  return (← r.updateStableRate amount rate now, p)

def stableDebtStages (amount rate now : Int) : List (Stage WithPosition) :=
  [lendStable amount rate now, averageInStable amount rate now]

def mintStableDebt (r : Reserve) (p : Position) (amount rate now : Int) :
    Except Fault WithPosition :=
  Stage.perform (stableDebtStages amount rate now) (r, p)

/-- What is left of a stable debt keeps its rate. -/
def burnStableDebt (r : Reserve) (p : Position) (amount now : Int) : Except Fault WithPosition := do
  let current ← p.stableDebt now
  let burned := min amount current
  let r ← r.updateStableRate (-burned) p.stableRate now
  let left := current - burned
  return (r, { p with
    principalStableDebt := left
    stableRate := if left = 0 then 0 else p.stableRate
    stableTimestamp := if left = 0 then 0 else now })

end MoneyMarket.Reserve
