import MoneyMarket.Pool.Operation
import MoneyMarket.Scenario.Field

/-!
# Operations of a scenario

An operation names what is to be done and gives amounts in whole tokens. It is understood against
the pool, which knows the decimals of each asset. A reserve is a shipped preset, or a configuration
with the name of a strategy.
-/

namespace MoneyMarket.Scenario

/-! ## Reserves -/

def presets : List (String × ReserveConfig × KinkedParams) :=
  [("USDC", .usdc, .stableThree), ("WETH", .weth, .weth), ("DAI", .dai, .stableTwo)]

def kinked (p : KinkedParams) : Reading RateStrategy := .ofFault do
  return .kinked (← Kinked.ofParams p)

def strategyNamed (governance : GovernedParams) (v : Json) : Reading RateStrategy :=
  match v with
  | .list _ => .error .wrongKind
  | .object _ => .error .wrongKind
  | .text "governance" => .ofFault do return .governed (← Governed.ofParams governance)
  | .text name => match KinkedParams.shipped.lookup name with
    | some p => kinked p
    | none => .error (.unknownStrategy v.shown)
  | _ => .error (.unknownStrategy v.shown)

def configured (governance : GovernedParams) (fs : Fields) : Reading Pool.Operation := do
  let strategy ← strategyNamed governance (fs.getOr "strategy" (.text "rateStrategyStableTwo"))
  let symbol ← fs.get "symbol"
  let decimals ← wholeNumber (← fs.get "decimals")
  let baseLtv ← wholeNumber (← fs.get "base_ltv")
  let liquidationThreshold ← wholeNumber (← fs.get "liquidation_threshold")
  let liquidationBonus ← wholeNumber (← fs.get "liquidation_bonus")
  let reserveFactor ← wholeNumber (fs.getOr "reserve_factor" (.whole 0))
  let config : ReserveConfig := {
    symbol := ← name symbol
    decimals, baseLtv, liquidationThreshold, liquidationBonus, reserveFactor
    borrowingEnabled := (fs.getOr "borrowing_enabled" (.bool true)).truthy
    stableBorrowingEnabled := (fs.getOr "stable_borrowing_enabled" (.bool false)).truthy }
  return .initReserve config strategy

def listing (governance : GovernedParams) : Json → Reading Pool.Operation
  | .text preset => match presets.lookup preset with
    | some (config, p) => do return .initReserve config (← kinked p)
    | none => .error (.unknownPreset (Text.quoted preset))
  | .object fs => configured governance fs
  | _ => .error .noParts

/-! ## Operations -/

def decimalsOf (p : Pool) (asset : Json) : Reading Int := do
  let r ← .ofFault (p.ledger.reserve (← name asset))
  return r.config.decimals

def units (p : Pool) (fs : Fields) (amountField assetField : String) : Reading Int := do
  let asset ← fs.get assetField
  let amount ← fs.get amountField
  toUnits amount (← decimalsOf p asset)

def marginReport (p : Pool) (fs : Fields) : Reading Pool.Operation := do
  let decimals ← decimalsOf p (.text p.params.margin.referenceAsset)
  let figure (field : String) : Reading Reported := do
    return .whole (← toUnits (fs.getOr field (.whole 0)) decimals)
  let report : MarginReport := {
    maintenanceMargin := ← figure "maintenance_margin"
    markToMarket := ← figure "mark_to_market"
    collateral := ← figure "collateral"
    valueAtRisk := ← figure "value_at_risk" }
  let user ← fs.get "user"
  let sequence ← wholeNumber (fs.getOr "sequence" (.whole 0))
  return .pushMargin (← name user) report sequence

def transfer (p : Pool) (fs : Fields) : Reading (Name × Int × Name) := do
  let asset ← fs.get "asset"
  let amount ← units p fs "amount" "asset"
  let user ← fs.get "user"
  return (← name asset, amount, ← name user)

def modeOf (fs : Fields) : Reading RateMode := rateMode (fs.getOr "rate_mode" (.text "variable"))

def liquidation (p : Pool) (fs : Fields) : Reading Pool.Operation := do
  let collateralAsset ← fs.get "collateral_asset"
  let debtAsset ← fs.get "debt_asset"
  let borrower ← fs.get "borrower"
  let debtToCover ← units p fs "debt_to_cover" "debt_asset"
  return .liquidate {
    collateralAsset := ← name collateralAsset
    debtAsset := ← name debtAsset
    borrower := ← name borrower
    debtToCover
    receiveUnderlying := (fs.getOr "receive_underlying" (.bool false)).truthy
    liquidator := fs.getOr "liquidator" (.text "liquidator") }

def marginLiquidation (p : Pool) (fs : Fields) : Reading Pool.Operation := do
  let caller := fs.getOr "caller" (.text p.params.settlementCounterparty)
  let borrower ← fs.get "borrower"
  let debtToCover ← units p fs "debt_to_cover" "debt_asset"
  let debtAsset ← fs.get "debt_asset"
  let collateralAsset ← fs.get "collateral_asset"
  let maxCollateral ← units p fs "max_collateral" "collateral_asset"
  return .liquidateMargin caller {
    borrower := ← name borrower
    debtToCover
    debtAsset := ← name debtAsset
    collateralAsset := ← name collateralAsset
    maxCollateral }

def operationOf (p : Pool) (fs : Fields) : Reading Pool.Operation := do
  let op ← fs.get "op"
  match op with
  | .text "advance_time" => return .advanceTime (← wholeNumber (← fs.get "seconds"))
  | .text "set_price" =>
    let asset ← fs.get "asset"
    let price ← toWad (← fs.get "price")
    return .setPrice asset (.whole price)
  | .text "margin" => marginReport p fs
  | .text "deposit" =>
    let (asset, amount, user) ← transfer p fs
    return .deposit asset amount user
  | .text "withdraw" =>
    let (asset, amount, user) ← transfer p fs
    return .withdraw asset amount user none
  | .text "borrow" =>
    let mode ← modeOf fs
    let (asset, amount, user) ← transfer p fs
    return .borrow asset amount mode.number user
  | .text "repay" =>
    let mode ← modeOf fs
    let (asset, amount, user) ← transfer p fs
    return .repay asset amount mode.number user
  | .text "use_margin_collateral" =>
    let user ← fs.get "user"
    let enabled ← fs.get "enabled"
    return .setUsingMargin (← name user) enabled.truthy
  | .text "set_usage_as_collateral" =>
    let user ← fs.get "user"
    let asset ← fs.get "asset"
    let enabled ← fs.get "enabled"
    return .setUsageAsCollateral (← name user) (← name asset) enabled.truthy
  | .text "liquidate" => liquidation p fs
  | .text "liquidate_margin" => marginLiquidation p fs
  | _ => throw (.unknownOperation op.shown)

end MoneyMarket.Scenario
