import MoneyMarket.Pool

/-!
# Liquidations in the pool

Anyone may liquidate supplied collateral. Only the settlement counterparty may liquidate margin
collateral, which then goes to the pool's receiver; the instruction is submitted as the last step,
and if the counterparty does not take it the liquidation has not happened.
-/

namespace MoneyMarket.Pool

def liquidating (p : Pool) (c : LiquidationCall) : LedgerWork (Receipt LiquidationResult) := do
  p.requireNotPaused
  let result ← LedgerWork.liquidate p.surroundings p.params.liquidation c p.clock
  let content := .liquidation c.collateralAsset c.debtAsset c.borrower result.debtRepaid
    result.collateralSeized c.liquidator c.receiveUnderlying
  return { value := result, contents := [content] }

def liquidate (p : Pool) (c : LiquidationCall) : Attempt LiquidationResult :=
  p.transact (p.liquidating c)

structure MarginRequest where
  borrower : Name
  debtToCover : Int
  debtAsset : Name
  collateralAsset : Name
  maxCollateral : Int
  deriving DecidableEq, Repr

def MarginRequest.routed (m : MarginRequest) (destination : String) : MarginLiquidation where
  borrower := m.borrower
  debtToCover := m.debtToCover
  debtAsset := m.debtAsset
  collateralAsset := m.collateralAsset
  maxCollateral := m.maxCollateral
  destination := destination

/-- What takes an instruction: the settlement that has it on record, or a fault. -/
abbrev Counterparty := DebitInstruction → Except Fault Settlement

def submit (p : Pool) (counterparty : Counterparty) (instruction : Option DebitInstruction) :
    Except Fault Settlement :=
  match instruction with
  | some i => counterparty i
  | none => .ok p.settlement

def settleMargin (p : Pool) (counterparty : Counterparty) (m : MarginRequest) :
    LedgerWork (Receipt LiquidationResult) := do
  p.requireNotPaused
  let destination := p.params.receiverAccount
  let result ← LedgerWork.liquidateMargin p.surroundings p.params.liquidation
    (m.routed destination) p.clock
  let content := .marginLiquidation m.borrower m.debtAsset m.collateralAsset result.debtRepaid
    result.collateralSeized destination
  let settlement ← p.submit counterparty result.instruction
  return { value := result, contents := [content], settlement := some settlement }

def liquidateMarginWith (p : Pool) (counterparty : Counterparty) (caller : Json)
    (m : MarginRequest) : Attempt LiquidationResult :=
  if caller ≠ .text p.params.settlementCounterparty then
    (p, .error (.refused (.notCounterparty caller)))
  else p.transact (p.settleMargin counterparty m)

def liquidateMargin (p : Pool) (caller : Json) (m : MarginRequest) : Attempt LiquidationResult :=
  p.liquidateMarginWith p.settlement.submit caller m

/-- A margin liquidation booked directly, which only the pool may do: no event, no instruction, no
credit to the treasury, and a failed one keeps what it had changed. -/
def bookMarginLiquidation (p : Pool) (caller : String) (m : MarginLiquidation) :
    Attempt LiquidationResult :=
  if caller ≠ p.params.poolAddress then (p, .error (.refused (.notPool caller)))
  else
    let work := LedgerWork.liquidateMargin p.surroundings p.params.liquidation m p.clock
    let (ledger, result) := work.outcome p.ledger
    ({ p with ledger }, result)

end MoneyMarket.Pool
