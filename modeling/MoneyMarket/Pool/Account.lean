import MoneyMarket.Pool

/-!
# Reading the pool
-/

namespace MoneyMarket

structure UserReserveData where
  asset : Name
  supplyBalance : Int := 0
  stableDebt : Int := 0
  variableDebt : Int := 0
  stableRate : Int := 0
  usedAsCollateral : Bool := false
  deriving DecidableEq, Repr

namespace Pool

def userReserveData (p : Pool) (asset user : Name) : Except Fault UserReserveData := do
  let r ← p.ledger.reserve asset
  match p.ledger.position? user asset with
  | none => return { asset }
  | some pos =>
    return {
      asset
      supplyBalance := ← pos.supplyBalance r p.clock
      stableDebt := ← pos.stableDebt p.clock
      variableDebt := ← pos.variableDebt r p.clock
      stableRate := pos.stableRate
      usedAsCollateral := pos.usedAsCollateral }

def amountToLiquidate (p : Pool) (user : Key) : Except Fault Quantity := do
  return (← p.solvency user).totalDebtValue

end Pool

end MoneyMarket
