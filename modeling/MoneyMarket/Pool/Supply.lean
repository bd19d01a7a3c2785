import MoneyMarket.Pool

/-!
# Supplying to the pool

Deposits, withdrawals and the choice of what counts as collateral. The first deposit in a reserve
switches it on as collateral, and taking everything out switches it off. What an account takes away
from its collateral must leave it healthy.
-/

namespace MoneyMarket.Pool

open MoneyMarket.FixedPoint MoneyMarket.LedgerWork

def collateralSwitched (enabled : Bool) (asset user : Name) : PoolEvent.Content :=
  if enabled then .collateralEnabled asset user else .collateralDisabled asset user

/-! ## Deposits -/

def admitDeposit (p : Pool) (l : Ledger) (asset : Name) (amount : Int) : Except Fault Unit := do
  let r ← l.reserve asset
  p.requireNotPaused
  r.requireActive
  r.requireNotPaused
  r.requireNotFrozen
  requirePositive .deposit amount

def bookDeposit (asset : Name) (amount : Int) (user : Name) (now : Int) : LedgerWork Bool := do
  book asset (.accrue now)
  let first := (← position user asset).scaledBalance = 0
  book asset (.money amount)
  book asset (.mintSupply user amount)
  if first then setUsedAsCollateral user asset true
  book asset (.accrue now)
  return first

def depositing (p : Pool) (asset : Name) (amount : Int) (user : Name) :
    LedgerWork (Receipt Unit) := do
  p.admitDeposit (← get) asset amount
  let first ← bookDeposit asset amount user p.clock
  let enabled := if first then [.collateralEnabled asset user] else []
  return { value := (), contents := enabled ++ [.deposit asset user amount] }

def deposit (p : Pool) (asset : Name) (amount : Int) (user : Name) : Attempt Unit :=
  p.transact (p.depositing asset amount user)

/-! ## Withdrawals -/

/-- The amount that a withdrawal takes: the asked one, or everything for `maxAmount`. -/
def admitWithdrawal (p : Pool) (l : Ledger) (asset : Name) (amount : Int) (user : Name) :
    Except Fault Int := do
  let r ← l.reserve asset
  p.requireNotPaused
  r.requireActive
  r.requireNotPaused
  let balance ← l.supplyOf user asset r p.clock
  let taken := if amount = maxAmount then balance else amount
  requirePositive .withdrawal taken
  if balance < taken then throw (.refused (.balanceTooLow user balance asset taken))
  if r.availableLiquidity < taken then
    throw (.refused (.liquidityTooLow asset r.availableLiquidity taken))
  return taken

def bookWithdrawal (asset : Name) (amount : Int) (user : Name) (now : Int) :
    LedgerWork Unit := do
  book asset (.accrue now)
  book asset (.burnSupply user amount)
  book asset (.money (-amount))
  book asset (.accrue now)

def recipientOr (user : Name) : Option Name → Name
  | some name => if name.toJson.truthy then name else user
  | none => user

def withdrawing (p : Pool) (asset : Name) (amount : Int) (user : Name)
    (recipient : Option Name) : LedgerWork (Receipt Int) := do
  let taken ← p.admitWithdrawal (← get) asset amount user
  let wasCollateral := (← position user asset).usedAsCollateral
  bookWithdrawal asset taken user p.clock
  let emptied := wasCollateral && (← position user asset).scaledBalance = 0
  if emptied then setUsedAsCollateral user asset false
  if wasCollateral then p.requireHealthy (← get) user "withdraw"
  let disabled := if emptied then [.collateralDisabled asset user] else []
  return {
    value := taken
    contents := disabled ++ [.withdraw asset user (recipientOr user recipient) taken] }

def withdraw (p : Pool) (asset : Name) (amount : Int) (user : Name)
    (recipient : Option Name) : Attempt Int :=
  p.transact (p.withdrawing asset amount user recipient)

/-! ## Collateral -/

def admitCollateralSwitch (p : Pool) (l : Ledger) (user asset : Name) : Except Fault Unit := do
  let r ← l.reserve asset
  p.requireNotPaused
  r.requireActive
  r.requireNotPaused
  if (← l.supplyOf user asset r p.clock) = 0 then throw (.refused (.holdsNone user asset))

def switchingCollateral (p : Pool) (user asset : Name) (enabled : Bool) :
    LedgerWork (Receipt Unit) := do
  p.admitCollateralSwitch (← get) user asset
  setUsedAsCollateral user asset enabled
  if !enabled then p.requireHealthy (← get) user "disabling collateral"
  return { value := (), contents := [collateralSwitched enabled asset user] }

def setUsageAsCollateral (p : Pool) (user asset : Name) (enabled : Bool) : Attempt Unit :=
  p.transact (p.switchingCollateral user asset enabled)

/-- The account must be healthy with its margin collateral counted or not, or have no debt. -/
def admitMarginSwitch (p : Pool) (l : Ledger) (user : Name) (enabled : Bool) :
    Except Fault Unit := do
  p.requireNotPaused
  let report ← l.solvencyUsing p.surroundings user p.clock enabled
  if report.totalDebtValue.isPositive && report.isLiquidatable then
    throw (.refused (.toggleUnhealthy user report.healthFactor))

def switchingMargin (p : Pool) (user : Name) (enabled : Bool) : LedgerWork (Receipt Unit) := do
  p.admitMarginSwitch (← get) user enabled
  modify (·.setUsesMargin user enabled)
  return { value := (), contents := [.marginUsage user enabled] }

def setUsingMargin (p : Pool) (user : Name) (enabled : Bool) : Attempt Unit :=
  p.transact (p.switchingMargin user enabled)

end MoneyMarket.Pool
