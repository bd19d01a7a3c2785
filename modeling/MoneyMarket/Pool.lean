import MoneyMarket.Liquidation.Margin
import MoneyMarket.Liquidation.Standard
import MoneyMarket.Pool.Event

/-!
# The lending pool

A pool is a ledger with a clock and the parties around it: prices, margin feed and settlement. What
an operation does to the ledger is done as a whole or not at all. When it is done, the treasury is
credited what has accrued to it and the events are published.
-/

namespace MoneyMarket

open MoneyMarket.FixedPoint

structure Pool where
  params : PoolParams := {}
  ledger : Ledger := {}
  prices : PriceBoard := {}
  feed : MarginFeed := {}
  settlement : Settlement := {}
  paused : Bool := false
  clock : Int := 0
  /-- Oldest first. -/
  events : List PoolEvent := []
  deriving DecidableEq, Inhabited

namespace Pool

def surroundings (p : Pool) : Surroundings where
  prices := p.prices
  feed := p.feed
  margin := p.params.margin

def solvency (p : Pool) (user : Key) : Except Fault SolvencyReport :=
  p.ledger.solvency p.surroundings user p.clock

/-! ## Guards -/

def requireNotPaused (p : Pool) : Except Fault Unit :=
  if p.paused then .error (.refused .pausedPool) else .ok ()

def requireHealthy (p : Pool) (l : Ledger) (user : Name) (action : String) :
    Except Fault Unit := do
  let report ← l.solvency p.surroundings user p.clock
  if report.isLiquidatable then
    throw (.refused (.wouldBeUnhealthy action user report.healthFactor))

def requirePositive (kind : AmountKind) (amount : Int) : Except Fault Unit :=
  if amount ≤ 0 then .error (.refused (.notPositive kind)) else .ok ()

/-! ## Transactions -/

def creditTreasuryIn (treasury : Key) (l : Ledger) (asset : Key) : Ledger :=
  match l.reserve? asset with
  | none => l
  | some r =>
    if r.accruedToTreasury = 0 then l
    else
      (l.modifyPosition treasury r.asset fun p =>
        { p with scaledBalance := p.scaledBalance + r.accruedToTreasury }).setReserve asset
          { r with accruedToTreasury := 0 }

def creditTreasury (treasury : Key) (l : Ledger) : Ledger :=
  l.reserves.keys.foldl (creditTreasuryIn treasury) l

def event (p : Pool) (content : PoolEvent.Content) : PoolEvent := ⟨p.clock, content⟩

structure Receipt (α : Type) where
  value : α
  contents : List PoolEvent.Content
  settlement : Option Settlement := none

def commit {α : Type} (p : Pool) (l : Ledger) (receipt : Receipt α) : Pool :=
  { p with
    ledger := creditTreasury (.text p.params.treasury) l
    events := p.events ++ receipt.contents.map p.event
    settlement := receipt.settlement.getD p.settlement }

/-- Where an operation leaves the pool, and its answer or fault. -/
abbrev Attempt (α : Type) := Pool × Except Fault α

/-- Does the work on the ledger and commits it; a fault leaves the ledger as it was. -/
def transact {α : Type} (p : Pool) (work : LedgerWork (Receipt α)) : Attempt α :=
  match work.atomically p.ledger with
  | .ok receipt l => (p.commit l receipt, .ok receipt.value)
  | .error f l => ({ p with ledger := l }, .error f)

def change {α : Type} (p : Pool) (result : Except Fault (Pool × α)) : Attempt α :=
  match result with
  | .ok (p', a) => (p', .ok a)
  | .error f => (p, .error f)

/-! ## Clock and administration -/

def setTimestamp (p : Pool) (time : Int) : Except Fault Pool :=
  if time < p.clock then .error (.invalid (.clockBackwards time p.clock))
  else .ok { p with clock := time }

def advanceTime (p : Pool) (seconds : Int) : Except Fault Pool :=
  if seconds < 0 then .error (.invalid .negativeSeconds)
  else .ok { p with clock := p.clock + seconds }

def initReserve (p : Pool) (config : ReserveConfig) (strategy : RateStrategy) :
    Except Fault Pool := do
  if p.ledger.reserves.contains config.symbol then
    throw (.refused (.alreadyListed config.symbol))
  if config.liquidationThreshold < config.baseLtv then throw (.invalid .ltvAboveThreshold)
  let r : Reserve := { asset := config.symbol, config, strategy, lastUpdateTimestamp := p.clock }
  return { p with ledger := p.ledger.setReserve config.symbol (← r.accrue p.clock) }

def modifyReserve (p : Pool) (asset : Name) (f : Reserve → Except Fault Reserve) :
    Except Fault Pool := do
  let r ← p.ledger.reserve asset
  return { p with ledger := p.ledger.setReserve asset (← f r) }

def setReserveActive (p : Pool) (asset : Name) (active : Bool) : Except Fault Pool :=
  p.modifyReserve asset fun r => .ok { r with active }

def setReserveFrozen (p : Pool) (asset : Name) (frozen : Bool) : Except Fault Pool :=
  p.modifyReserve asset fun r => .ok { r with frozen }

def setReservePaused (p : Pool) (asset : Name) (paused : Bool) : Except Fault Pool :=
  p.modifyReserve asset fun r => .ok { r with paused }

def setPaused (p : Pool) (paused : Bool) : Pool := { p with paused }

def govern (p : Pool) (asset : Name) (setting : GovernedSetting) (caller : String)
    (value : Int) : Except Fault Pool :=
  p.modifyReserve asset fun r => do
    return { r with strategy := ← r.strategy.set setting caller value }

/-! ## Outside reports -/

def setPrice (p : Pool) (asset : Json) (price : Reported) : Except Fault Pool := do
  return { p with prices := ← p.prices.setPrice asset price }

def pushMargin (p : Pool) (user : Name) (report : MarginReport) (sequence : Int) :
    Except Fault (Pool × Bool) := do
  let (feed, stored) ← p.feed.push user report sequence
  return ({ p with feed }, stored)

end Pool

end MoneyMarket
