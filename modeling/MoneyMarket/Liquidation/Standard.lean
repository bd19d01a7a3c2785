import MoneyMarket.Json.Equality
import MoneyMarket.Liquidation

/-!
# Liquidation of supplied collateral

The liquidator pays the debt and takes the borrower's supply in the collateral reserve, either as
supply or, if asked, as money out of the reserve.
-/

namespace MoneyMarket

open MoneyMarket.FixedPoint

structure LiquidationCall where
  collateralAsset : Name
  debtAsset : Name
  borrower : Name
  debtToCover : Int
  receiveUnderlying : Bool := false
  /-- Needs a name only where it is given supply. -/
  liquidator : Json := .text "liquidator"
  deriving DecidableEq

namespace Ledger

def supplyOf (l : Ledger) (user asset : Key) (r : Reserve) (now : Int) : Except Fault Int :=
  match l.position? user asset with
  | none => .ok 0
  | some p => p.supplyBalance r now

def seizable (l : Ledger) (user asset : Key) (r : Reserve) (balance : Int) : Bool :=
  (l.position? user asset).any fun p =>
    p.usedAsCollateral && 0 < r.config.liquidationThreshold && 0 < balance

def planStandardLiquidation (l : Ledger) (s : Surroundings) (params : LiquidationParams)
    (c : LiquidationCall) (now : Int) : Except Fault LiquidationResult := do
  let collateral ← l.reserve c.collateralAsset
  let debt ← l.reserve c.debtAsset
  requireOpen collateral debt
  let balance ← l.supplyOf c.borrower c.collateralAsset collateral now
  let plan ← l.planLiquidation s params c.borrower c.debtAsset c.debtToCover now
    (l.seizable c.borrower c.collateralAsset collateral balance)
  let (seized, repaid) ← collateralToSeize s.prices
    c.collateralAsset collateral.config.decimals c.debtAsset debt.config.decimals
    plan.debtToCover collateral.config.liquidationBonus (.whole balance)
  if c.receiveUnderlying && (Quantity.whole collateral.availableLiquidity).lt seized then
    throw (.refused
      (.liquidityTooLowToSeize c.collateralAsset collateral.availableLiquidity seized))
  return {
    borrower := c.borrower
    debtAsset := c.debtAsset
    collateralAsset := c.collateralAsset
    debtRepaid := repaid
    collateralSeized := seized
    healthFactorBefore := plan.healthFactor
    closeFactor := plan.closeFactor
    receiveUnderlying := c.receiveUnderlying }

end Ledger

namespace LedgerWork

def payOutCollateral (borrower asset : Name) (seized : Int) : LedgerWork Unit := do
  book asset (.burnSupply borrower seized)
  book asset (.money (-seized))

/-- Moves the seized supply to the liquidator, to whom it counts as collateral if it is the first
that the liquidator has there. -/
def handOverCollateral (borrower asset : Name) (liquidator : Json) (seized : Int) :
    LedgerWork Unit := do
  let liquidator ← liquidator.named
  let before ← position liquidator asset
  book asset (.transferSupply borrower liquidator seized)
  if before.scaledBalance = 0 then setUsedAsCollateral liquidator asset true

/-- A position that was emptied is no collateral any more. -/
def retireEmptyCollateral (user asset : Name) : LedgerWork Unit := do
  if (← position user asset).scaledBalance = 0 then setUsedAsCollateral user asset false

def moveCollateral (c : LiquidationCall) (seized now : Int) : LedgerWork Unit := do
  book c.collateralAsset (.accrue now)
  if c.receiveUnderlying then payOutCollateral c.borrower c.collateralAsset seized
  else handOverCollateral c.borrower c.collateralAsset c.liquidator seized
  book c.collateralAsset (.accrue now)
  retireEmptyCollateral c.borrower c.collateralAsset

/-- Carries out a liquidation that moves whole amounts, as every one does among whole tokens. -/
def liquidate (s : Surroundings) (params : LiquidationParams) (c : LiquidationCall) (now : Int) :
    LedgerWork LiquidationResult := do
  let result ← (← get).planStandardLiquidation s params c now
  let repaid ← result.debtRepaid.booked
  let seized ← result.collateralSeized.booked
  settleDebt c.borrower c.debtAsset repaid now
  moveCollateral c seized now
  return result

end LedgerWork

end MoneyMarket
