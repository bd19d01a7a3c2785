import MoneyMarket.Liquidation

/-!
# Liquidation of margin collateral

A debt is repaid against collateral that lies at the margin venue. The ledger only records the
repayment; an instruction tells the settlement counterparty what to move where. The stored margin
snapshot is left as it is.
-/

namespace MoneyMarket

open MoneyMarket.FixedPoint

structure MarginLiquidation where
  borrower : Name
  debtToCover : Int
  debtAsset : Name
  collateralAsset : Name
  maxCollateral : Int
  destination : String
  deriving DecidableEq, Repr

namespace Ledger

/-- The usable margin collateral of an account in units of an asset; none without opting in. -/
def availableMarginCollateral (l : Ledger) (s : Surroundings) (user : Key) (asset : Name) :
    Except Fault Quantity := do
  if !l.usesMargin user then return .whole 0
  else
    let amount := (s.feed.snapshot user).collateralValue
    if amount = 0 ∨ asset.key = .text s.margin.referenceAsset then return .whole amount
    else
      let value ← l.marginCollateralValue s user
      let r ← l.reserve asset
      let scaled ← value.mul (← tokenUnits r.config.decimals)
      scaled.floorDiv (.whole (← s.prices.requirePrice asset))

def planMarginLiquidation (l : Ledger) (s : Surroundings) (params : LiquidationParams)
    (m : MarginLiquidation) (now : Int) : Except Fault LiquidationResult := do
  if m.maxCollateral ≤ 0 then throw (.refused (.notPositive .collateralLimit))
  let debt ← l.reserve m.debtAsset
  let collateral ← l.reserve m.collateralAsset
  requireOpen collateral debt
  let available ← l.availableMarginCollateral s m.borrower m.collateralAsset
  let plan ← l.planLiquidation s params m.borrower m.debtAsset m.debtToCover now
    available.isPositive
  let (seized, repaid) ← collateralToSeize s.prices
    m.collateralAsset collateral.config.decimals m.debtAsset debt.config.decimals
    plan.debtToCover s.margin.liquidationBonus (available.least (.whole m.maxCollateral))
  if repaid.isZero then throw (.refused .coversNoDebt)
  return {
    borrower := m.borrower
    debtAsset := m.debtAsset
    collateralAsset := m.collateralAsset
    debtRepaid := repaid
    collateralSeized := seized
    healthFactorBefore := plan.healthFactor
    closeFactor := plan.closeFactor
    instruction := some {
      account := m.borrower
      asset := m.collateralAsset
      amount := seized
      destination := m.destination } }

end Ledger

/-- Carries out a margin liquidation that repays a whole amount, as every one does among whole
tokens. -/
def LedgerWork.liquidateMargin (s : Surroundings) (params : LiquidationParams)
    (m : MarginLiquidation) (now : Int) : LedgerWork LiquidationResult := do
  let result ← (← get).planMarginLiquidation s params m now
  settleDebt m.borrower m.debtAsset (← result.debtRepaid.booked) now
  return result

end MoneyMarket
