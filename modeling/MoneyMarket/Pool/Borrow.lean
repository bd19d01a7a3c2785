import MoneyMarket.Pool

/-!
# Borrowing from the pool

Borrowing needs collateral for the new debt at the average loan-to-value, and leaves the account
healthy. A stable loan is kept from being taken against the same asset and from taking too large a
share of the liquidity. Repaying takes at most the debt of the chosen mode.
-/

namespace MoneyMarket.Pool

open MoneyMarket.FixedPoint MoneyMarket.LedgerWork

/-! ## Loans -/

def requireLiquidity (r : Reserve) (asset : Name) (amount : Int) : Except Fault Unit :=
  if r.availableLiquidity < amount then
    .error (.refused (.liquidityTooLow asset r.availableLiquidity amount))
  else .ok ()

def requireCollateralFor (report : SolvencyReport) (user : Name) (newDebt : Quantity) :
    Except Fault Unit := do
  if report.avgLtv.isZero then throw (.refused (.zeroLtv user))
  let needed ← (← report.totalDebtValue.add newDebt).percentDiv report.avgLtv
  if report.totalCollateralValue.lt needed then
    throw (.refused (.collateralTooLow user needed report.totalCollateralValue))

/-- Whether the supply of a position in the same reserve would cover the loan as collateral. -/
def coversItself (r : Reserve) (pos : Position) (amount now : Int) : Except Fault Bool := do
  if pos.usedAsCollateral ∧ 0 < r.config.baseLtv then return amount ≤ (← pos.supplyBalance r now)
  else return false

def requireStableLoan (p : Pool) (r : Reserve) (pos : Position) (asset : Name) (amount : Int)
    (user : Name) : Except Fault Unit := do
  if !r.config.stableBorrowingEnabled then throw (.refused (.stableBorrowingDisabled asset))
  if ← coversItself r pos amount p.clock then throw (.refused (.sameCurrency user asset))
  let limit ← percentMul r.availableLiquidity p.params.liquidation.maxStableLoanPercent
  if limit < amount then throw (.refused (.stableLoanTooLarge amount asset limit))

def modeRate (r : Reserve) : RateMode → Int
  | .stable => r.currentStableBorrowRate
  | .floating => r.currentVariableBorrowRate

def mintBooking (mode : RateMode) (user : Name) (amount rate now : Int) : Ledger.Booking :=
  match mode with
  | .stable => .mintStableDebt user amount rate now
  | .floating => .mintVariableDebt user amount

def burnBooking (mode : RateMode) (user : Name) (amount now : Int) : Ledger.Booking :=
  match mode with
  | .stable => .burnStableDebt user amount now
  | .floating => .burnVariableDebt user amount

def admitBorrow (p : Pool) (l : Ledger) (asset : Name) (amount : Int) (user : Name) :
    Except Fault Unit := do
  let r ← l.reserve asset
  p.requireNotPaused
  r.requireActive
  r.requireNotPaused
  r.requireNotFrozen
  if !r.config.borrowingEnabled then throw (.refused (.borrowingDisabled asset))
  requirePositive .borrowing amount
  requireLiquidity r asset amount
  let report ← l.solvency p.surroundings user p.clock
  if report.totalCollateralValue.isZero then throw (.refused (.noCollateral user))
  if report.isLiquidatable then
    throw (.refused (.alreadyUnhealthy user report.healthFactor))
  let price ← p.prices.requirePrice asset
  requireCollateralFor report user (← valueOf price amount r.config.decimals)

def bookLoan (asset : Name) (amount : Int) (mode : RateMode) (user : Name) (now : Int) :
    LedgerWork Int := do
  book asset (.accrue now)
  let rate := modeRate (← reserve asset) mode
  book asset (mintBooking mode user amount rate now)
  book asset (.money (-amount))
  book asset (.accrue now)
  return rate

def borrowing (p : Pool) (asset : Name) (amount : Int) (mode : RateMode) (user : Name) :
    LedgerWork (Receipt Unit) := do
  p.admitBorrow (← get) asset amount user
  openPosition user asset
  if mode = .stable then
    p.requireStableLoan (← reserve asset) (← position user asset) asset amount user
  let rate ← bookLoan asset amount mode user p.clock
  p.requireHealthy (← get) user "borrow"
  return { value := (), contents := [.borrow asset user amount mode rate] }

def borrow (p : Pool) (asset : Name) (amount : Int) (mode : RateMode) (user : Name) :
    Attempt Unit :=
  p.transact (p.borrowing asset amount mode user)

/-! ## Repayments -/

def debtOfMode (r : Reserve) (pos : Position) (mode : RateMode) (now : Int) : Except Fault Int :=
  match mode with
  | .stable => pos.stableDebt now
  | .floating => pos.variableDebt r now

def admitRepayment (p : Pool) (l : Ledger) (asset : Name) (amount : Int) (mode : RateMode)
    (user : Name) : Except Fault Int := do
  let r ← l.reserve asset
  p.requireNotPaused
  r.requireActive
  r.requireNotPaused
  requirePositive .repayment amount
  match l.position? user asset with
  | none => throw (.refused (.owesNone user asset))
  | some pos =>
    let debt ← debtOfMode r pos mode p.clock
    if debt = 0 then throw (.refused (.noDebtOfMode user mode asset))
    return min amount debt

def bookRepayment (asset : Name) (amount : Int) (mode : RateMode) (user : Name) (now : Int) :
    LedgerWork Unit := do
  book asset (.accrue now)
  book asset (burnBooking mode user amount now)
  book asset (.money amount)
  book asset (.accrue now)

def repaying (p : Pool) (asset : Name) (amount : Int) (mode : RateMode) (user : Name) :
    LedgerWork (Receipt Int) := do
  let paid ← p.admitRepayment (← get) asset amount mode user
  bookRepayment asset paid mode user p.clock
  return { value := paid, contents := [.repay asset user paid mode] }

def repay (p : Pool) (asset : Name) (amount : Int) (mode : RateMode) (user : Name) :
    Attempt Int :=
  p.transact (p.repaying asset amount mode user)

end MoneyMarket.Pool
