import MoneyMarket.Ledger.Work
import MoneyMarket.Settlement
import MoneyMarket.Solvency

/-!
# Liquidation: eligibility and seizure

An account below health factor one may have part of a debt repaid by others, who are paid from its
collateral with a bonus. One call may repay the close factor's share of the debt, or all of it when
the health factor is very low. What is seized never exceeds what is available; the repaid debt then
shrinks in proportion.
-/

namespace MoneyMarket

open MoneyMarket.FixedPoint

structure LiquidationPlan where
  healthFactor : Quantity
  closeFactor : Int
  stableDebt : Int
  variableDebt : Int
  maxLiquidatableDebt : Int
  /-- The asked amount, cut to the most that is allowed. -/
  debtToCover : Int
  deriving DecidableEq, Repr

structure LiquidationResult where
  borrower : Name
  debtAsset : Name
  collateralAsset : Name
  debtRepaid : Quantity
  collateralSeized : Quantity
  healthFactorBefore : Quantity
  closeFactor : Int
  receiveUnderlying : Bool := false
  instruction : Option DebitInstruction := none
  deriving DecidableEq, Repr

def LiquidationParams.closeFactorAt (params : LiquidationParams) (healthFactor : Quantity) : Int :=
  if (Quantity.whole wad).le healthFactor then 0
  else if healthFactor.lt (.whole params.fullLiquidationHealthFactor) then whole
  else params.closeFactor

/-! ## Seizure -/

structure SeizureTerms where
  collateralPrice : Int
  collateralDecimals : Int
  debtPrice : Int
  debtDecimals : Int
  bonus : Int
  deriving DecidableEq, Repr

namespace SeizureTerms

def collateralFor (t : SeizureTerms) (debt : Int) : Except Fault Quantity := do
  let value ← Quantity.mul (.whole (t.debtPrice * debt)) (← tokenUnits t.collateralDecimals)
  let worth ← value.percentMul (.whole t.bonus)
  worth.floorDiv (← Quantity.mul (.whole t.collateralPrice) (← tokenUnits t.debtDecimals))

def debtFor (t : SeizureTerms) (collateral : Quantity) : Except Fault Quantity := do
  let priced ← Quantity.mul (.whole t.collateralPrice) collateral
  let value ← priced.mul (← tokenUnits t.debtDecimals)
  let price ← Quantity.mul (.whole t.debtPrice) (← tokenUnits t.collateralDecimals)
  (← value.floorDiv price).percentDiv (.whole t.bonus)

/-- The collateral to seize and the debt that it repays. -/
def seize (t : SeizureTerms) (debtToCover : Int) (available : Quantity) :
    Except Fault (Quantity × Quantity) := do
  let wanted ← t.collateralFor debtToCover
  if wanted.le available then return (wanted, .whole debtToCover)
  else return (available, (← t.debtFor available).least (.whole debtToCover))

end SeizureTerms

def collateralToSeize (prices : PriceBoard) (collateralAsset : Name) (collateralDecimals : Int)
    (debtAsset : Name) (debtDecimals debtToCover bonus : Int) (available : Quantity) :
    Except Fault (Quantity × Quantity) := do
  let collateralPrice ← prices.requirePrice collateralAsset
  let debtPrice ← prices.requirePrice debtAsset
  SeizureTerms.seize { collateralPrice, collateralDecimals, debtPrice, debtDecimals, bonus }
    debtToCover available

namespace Ledger

/-! ## Eligibility -/

def debtsOf (l : Ledger) (user asset : Key) (r : Reserve) (now : Int) :
    Except Fault (Int × Int) := do
  match l.position? user asset with
  | none => return (0, 0)
  | some p => return (← p.stableDebt now, ← p.variableDebt r now)

/-- Checks that an account may be liquidated and cuts the asked amount to what is allowed. -/
def planLiquidation (l : Ledger) (s : Surroundings) (params : LiquidationParams)
    (borrower debtAsset : Name) (debtToCover now : Int) (collateralUsable : Bool) :
    Except Fault LiquidationPlan := do
  if debtToCover ≤ 0 then throw (.refused (.notPositive .debtToCover))
  let report ← l.solvency s borrower now
  if (Quantity.whole wad).le report.healthFactor then
    throw (.refused (.stillHealthy borrower report.healthFactor))
  if !collateralUsable then throw (.refused (.notLiquidatable borrower))
  let reserve ← l.reserve debtAsset
  let (stableDebt, variableDebt) ← l.debtsOf borrower debtAsset reserve now
  if stableDebt + variableDebt = 0 then throw (.refused (.notBorrowed borrower debtAsset))
  let closeFactor := params.closeFactorAt report.healthFactor
  let maxLiquidatableDebt ← percentMul (stableDebt + variableDebt) closeFactor
  return {
    healthFactor := report.healthFactor
    closeFactor, stableDebt, variableDebt, maxLiquidatableDebt
    debtToCover := min debtToCover maxLiquidatableDebt }

def requireOpen (collateral debt : Reserve) : Except Fault Unit := do
  collateral.requireActive
  collateral.requireNotPaused
  debt.requireActive
  debt.requireNotPaused

end Ledger

namespace LedgerWork

/-! ## Settling the debt -/

/-- Repays stable debt first and variable debt with what is left. -/
def repayDebt (borrower asset : Name) (amount now : Int) : LedgerWork Unit := do
  openPosition borrower asset
  let fromStable := min amount (← (← position borrower asset).stableDebt now)
  if 0 < fromStable then book asset (.burnStableDebt borrower fromStable now)
  if 0 < amount - fromStable then book asset (.burnVariableDebt borrower (amount - fromStable))

/-- Repays a debt with money that enters the reserve, between two accruals. -/
def settleDebt (borrower asset : Name) (amount now : Int) : LedgerWork Unit := do
  book asset (.accrue now)
  repayDebt borrower asset amount now
  book asset (.money amount)
  book asset (.accrue now)

end LedgerWork

end MoneyMarket
