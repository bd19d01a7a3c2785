import MoneyMarket.Ledger
import MoneyMarket.MarginFeed
import MoneyMarket.Numeral.Power
import MoneyMarket.Params
import MoneyMarket.PriceBoard
import MoneyMarket.Quantity.Arithmetic

/-!
# Solvency of an account

The report on an account values each supply that is used as collateral, the margin collateral of
those who opted in, and all debts, in base currency. Loan-to-value and liquidation threshold are
averaged by collateral value. The health factor is the collateral, weighted by the threshold, over
the debt: below one the account may be liquidated.
-/

namespace MoneyMarket

open MoneyMarket.FixedPoint

/-! ## Values -/

/-- The base units of a whole token; a fraction of one for a negative number of decimals, which has
to be a binary64 number itself. -/
def tokenUnits (decimals : Int) : Except Fault Quantity := do
  if 0 ≤ decimals then return .whole (Numeral.tenPow decimals.toNat)
  let _ ← (Quantity.whole decimals).toFloat
  return .real (Binary64.ofDecimal (.finite false 1 decimals))

theorem tokenUnits_of_nonneg {decimals : Int} (h : 0 ≤ decimals) :
    tokenUnits decimals = .ok (.whole (Numeral.tenPow decimals.toNat)) := by
  simp only [tokenUnits, if_pos h]
  rfl

def valueOf (price amount decimals : Int) : Except Fault Quantity := do
  Quantity.floorDiv (.whole (price * amount)) (← tokenUnits decimals)

theorem valueOf_of_nonneg (price amount : Int) {decimals : Int} (h : 0 ≤ decimals) :
    valueOf price amount decimals =
      .ok (.whole (price * amount / Numeral.tenPow decimals.toNat)) := by
  have hpos : (0 : Int) < Numeral.tenPow decimals.toNat := by
    exact_mod_cast Numeral.tenPow_pos decimals.toNat
  simp only [valueOf, tokenUnits_of_nonneg h]
  exact Quantity.floorDiv_whole _ hpos

def healthFactor (collateral debt threshold : Quantity) : Except Fault Quantity := do
  if debt.isZero then return .whole maxAmount
  else Quantity.wadDiv (← Quantity.percentMul collateral threshold) debt

def availableBorrows (collateral debt ltv : Quantity) : Except Fault Quantity := do
  let power ← Quantity.percentMul collateral ltv
  if power.le debt then return .whole 0 else power.sub debt

/-! ## Reports -/

structure Contribution where
  source : Name
  /-- In units of the asset that is priced. -/
  amount : Int
  value : Quantity
  ltv : Int
  liquidationThreshold : Int
  deriving DecidableEq, Repr

def marginSource : Name := .text "MARGIN"

structure SolvencyReport where
  totalCollateralValue : Quantity
  totalDebtValue : Quantity
  avgLtv : Quantity
  avgLiquidationThreshold : Quantity
  healthFactor : Quantity
  availableBorrowsValue : Quantity
  collateral : List Contribution
  marginSnapshot : Option MarginSnapshot
  deriving DecidableEq, Repr

def SolvencyReport.isLiquidatable (r : SolvencyReport) : Bool := r.healthFactor.lt (.whole wad)

/-- What an account's solvency depends on besides the ledger. -/
structure Surroundings where
  prices : PriceBoard := {}
  feed : MarginFeed := {}
  margin : MarginParams := {}
  deriving DecidableEq, Inhabited

namespace Ledger

def referenceValue (l : Ledger) (s : Surroundings) (amount : Int) : Except Fault Quantity := do
  let asset : Name := .text s.margin.referenceAsset
  match l.reserve? asset with
  | none => throw (.refused (.unlistedReference asset))
  | some r => valueOf (← s.prices.requirePrice asset) amount r.config.decimals

def marginCollateralValue (l : Ledger) (s : Surroundings) (user : Key) : Except Fault Quantity := do
  let amount := (s.feed.snapshot user).collateralValue
  if amount = 0 then return .whole 0 else l.referenceValue s amount

/-- Whether a position counts as collateral: switched on, eligible, and not empty. -/
def countsAsCollateral (r : Reserve) (p : Position) : Bool :=
  p.usedAsCollateral && 0 < r.config.liquidationThreshold && 0 < p.scaledBalance

def debtValue (r : Reserve) (p : Position) (price now : Int) : Except Fault Quantity := do
  let debt := (← p.stableDebt now) + (← p.variableDebt r now)
  valueOf price debt r.config.decimals

/-- What one position adds to the report: a contribution, if it is collateral, and a debt value. -/
def assess (s : Surroundings) (r : Reserve) (p : Position) (now : Int) :
    Except Fault (List Contribution × Quantity) := do
  let isCollateral := countsAsCollateral r p
  if !isCollateral && !p.isBorrowing then return ([], .whole 0)
  else
    let price ← s.prices.requirePrice p.asset
    let contributions ←
      if isCollateral then do
        let balance ← p.supplyBalance r now
        pure [{
          source := p.asset
          amount := balance
          value := ← valueOf price balance r.config.decimals
          ltv := r.config.baseLtv
          liquidationThreshold := r.config.liquidationThreshold : Contribution }]
      else pure []
    if p.isBorrowing then return (contributions, ← debtValue r p price now)
    else return (contributions, .whole 0)

def assessNext (l : Ledger) (s : Surroundings) (now : Int) (sofar : List Contribution × Quantity)
    (entry : Key × Position) : Except Fault (List Contribution × Quantity) := do
  match l.reserve? entry.1 with
  | none => throw (.missingReserve entry.2.asset)
  | some r =>
    let (contributions, debt) ← assess s r entry.2 now
    return (sofar.1 ++ contributions, ← sofar.2.add debt)

def assessAll (l : Ledger) (s : Surroundings) (user : Key) (now : Int) :
    Except Fault (List Contribution × Quantity) :=
  (l.userPositions user).entries.foldlM (l.assessNext s now) ([], .whole 0)

def marginContribution (l : Ledger) (s : Surroundings) (user : Key) :
    Except Fault (List Contribution) := do
  let amount := (s.feed.snapshot user).collateralValue
  if 0 < amount then
    return [{
      source := marginSource
      amount
      value := ← l.referenceValue s amount
      ltv := s.margin.ltv
      liquidationThreshold := s.margin.liquidationThreshold }]
  else return []

end Ledger

/-! ## Averages -/

def sumOf (f : Contribution → Except Fault Quantity) (cs : List Contribution) :
    Except Fault Quantity :=
  cs.foldlM (fun sum c => do sum.add (← f c)) (.whole 0)

def totalValue (cs : List Contribution) : Except Fault Quantity := sumOf (fun c => .ok c.value) cs

/-- The average of a parameter by value, in whole basis points; zero without collateral. -/
def averageBy (parameter : Contribution → Int) (cs : List Contribution) (total : Quantity) :
    Except Fault Quantity := do
  if total.isPositive then
    (← sumOf (fun c => Quantity.mul (.whole (parameter c)) c.value) cs).floorDiv total
  else return .whole 0

def SolvencyReport.of (cs : List Contribution) (debt : Quantity) (margin : Option MarginSnapshot) :
    Except Fault SolvencyReport := do
  let total ← totalValue cs
  let avgLtv ← averageBy (·.ltv) cs total
  let avgLiquidationThreshold ← averageBy (·.liquidationThreshold) cs total
  return {
    totalCollateralValue := total
    totalDebtValue := debt
    avgLtv
    avgLiquidationThreshold
    healthFactor := ← MoneyMarket.healthFactor total debt avgLiquidationThreshold
    availableBorrowsValue := ← availableBorrows total debt avgLtv
    collateral := cs
    marginSnapshot := margin }

namespace Ledger

def solvencyUsing (l : Ledger) (s : Surroundings) (user : Key) (now : Int) (usingMargin : Bool) :
    Except Fault SolvencyReport := do
  let (contributions, debt) ← l.assessAll s user now
  if usingMargin then
    let margin ← l.marginContribution s user
    SolvencyReport.of (contributions ++ margin) debt (some (s.feed.snapshot user))
  else SolvencyReport.of contributions debt none

def solvency (l : Ledger) (s : Surroundings) (user : Key) (now : Int) :
    Except Fault SolvencyReport :=
  l.solvencyUsing s user now (l.usesMargin user)

end Ledger

end MoneyMarket
