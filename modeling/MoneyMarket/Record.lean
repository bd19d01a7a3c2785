import MoneyMarket.Pool.Account

/-!
# Records

The JSON form of what the market keeps and reports, field by field.
-/

namespace MoneyMarket

def Position.record (p : Position) : Json := .object [
  ("scaled_balance", .whole p.scaledBalance),
  ("scaled_variable_debt", .whole p.scaledVariableDebt),
  ("principal_stable_debt", .whole p.principalStableDebt),
  ("stable_rate", .whole p.stableRate),
  ("stable_timestamp", .whole p.stableTimestamp),
  ("usage_as_collateral_enabled", .bool p.usedAsCollateral)]

/-- The reserve without its name, configuration and strategy. -/
def Reserve.record (r : Reserve) : Json := .object [
  ("active", .bool r.active),
  ("frozen", .bool r.frozen),
  ("paused", .bool r.paused),
  ("liquidity_index", .whole r.liquidityIndex),
  ("variable_borrow_index", .whole r.variableBorrowIndex),
  ("current_liquidity_rate", .whole r.currentLiquidityRate),
  ("current_variable_borrow_rate", .whole r.currentVariableBorrowRate),
  ("current_stable_borrow_rate", .whole r.currentStableBorrowRate),
  ("principal_stable_debt", .whole r.principalStableDebt),
  ("average_stable_rate", .whole r.averageStableRate),
  ("stable_debt_timestamp", .whole r.stableDebtTimestamp),
  ("scaled_variable_debt", .whole r.scaledVariableDebt),
  ("scaled_total_supply", .whole r.scaledTotalSupply),
  ("available_liquidity", .whole r.availableLiquidity),
  ("accrued_to_treasury", .whole r.accruedToTreasury),
  ("last_update_timestamp", .whole r.lastUpdateTimestamp)]

def InterestRates.record (r : InterestRates) : Json := .object [
  ("liquidity_rate", .whole r.liquidityRate),
  ("stable_borrow_rate", .whole r.stableBorrowRate),
  ("variable_borrow_rate", .whole r.variableBorrowRate)]

def MarginSnapshot.fields (s : MarginSnapshot) : List (String × Json) := [
  ("maintenance_margin", .whole s.maintenanceMargin),
  ("mark_to_market", .whole s.markToMarket),
  ("collateral", .whole s.collateral),
  ("value_at_risk", .whole s.valueAtRisk),
  ("sequence", .whole s.sequence)]

def DebitInstruction.record (i : DebitInstruction) : Json := .object [
  ("account", i.account),
  ("asset", i.asset),
  ("amount", i.amount.toJson),
  ("destination", .text i.destination)]

def Contribution.record (c : Contribution) : Json := .object [
  ("source", c.source),
  ("amount", .whole c.amount),
  ("value", c.value.toJson),
  ("ltv", .whole c.ltv),
  ("liquidation_threshold", .whole c.liquidationThreshold)]

def SolvencyReport.fields (r : SolvencyReport) : List (String × Json) := [
  ("total_collateral_value", r.totalCollateralValue.toJson),
  ("total_debt_value", r.totalDebtValue.toJson),
  ("avg_ltv", r.avgLtv.toJson),
  ("avg_liquidation_threshold", r.avgLiquidationThreshold.toJson),
  ("health_factor", r.healthFactor.toJson),
  ("available_borrows_value", r.availableBorrowsValue.toJson),
  ("collateral", .list (r.collateral.map Contribution.record)),
  ("margin", match r.marginSnapshot with
    | some s => .object s.fields
    | none => .null)]

def SolvencyReport.record (r : SolvencyReport) : Json := .object r.fields

def LiquidationPlan.record (p : LiquidationPlan) : Json := .object [
  ("health_factor", p.healthFactor.toJson),
  ("close_factor", .whole p.closeFactor),
  ("stable_debt", .whole p.stableDebt),
  ("variable_debt", .whole p.variableDebt),
  ("max_liquidatable_debt", .whole p.maxLiquidatableDebt),
  ("debt_to_cover", .whole p.debtToCover)]

def LiquidationResult.record (r : LiquidationResult) : Json := .object [
  ("borrower", r.borrower),
  ("debt_asset", r.debtAsset),
  ("collateral_asset", r.collateralAsset),
  ("debt_repaid", r.debtRepaid.toJson),
  ("collateral_seized", r.collateralSeized.toJson),
  ("health_factor_before", r.healthFactorBefore.toJson),
  ("close_factor", .whole r.closeFactor),
  ("receive_underlying", .bool r.receiveUnderlying),
  ("instruction", match r.instruction with
    | some i => i.record
    | none => .null)]

def UserReserveData.record (d : UserReserveData) : Json := .object [
  ("asset", d.asset),
  ("supply_balance", .whole d.supplyBalance),
  ("stable_debt", .whole d.stableDebt),
  ("variable_debt", .whole d.variableDebt),
  ("stable_rate", .whole d.stableRate),
  ("usage_as_collateral_enabled", .bool d.usedAsCollateral)]

def PoolEvent.record (e : PoolEvent) : Json := .object
  ([("name", .text e.content.name), ("timestamp", .whole e.timestamp)] ++ e.content.fields)

def GovernedParams.record (p : GovernedParams) : Json := .object [
  ("intercept", .whole p.intercept),
  ("slope", .whole p.slope),
  ("withdrawal_shock_probability", .whole p.shockProbability),
  ("model_reserve_factor", match p.modelReserveFactor with
    | some f => .whole f
    | none => .null),
  ("base_stable_rate", .whole p.baseStableRate),
  ("stable_slope1", .whole p.stableSlope1),
  ("stable_slope2", .whole p.stableSlope2),
  ("stable_kink_low", .whole p.stableKinkLow),
  ("stable_kink_high", .whole p.stableKinkHigh),
  ("governance", .text p.governance)]

def MarginParams.record (p : MarginParams) : Json := .object [
  ("ltv", .whole p.ltv),
  ("liquidation_threshold", .whole p.liquidationThreshold),
  ("liquidation_bonus", .whole p.liquidationBonus),
  ("reference_asset", .text p.referenceAsset)]

def LiquidationParams.record (p : LiquidationParams) : Json := .object [
  ("close_factor", .whole p.closeFactor),
  ("full_liquidation_health_factor", .whole p.fullLiquidationHealthFactor),
  ("max_stable_loan_percent", .whole p.maxStableLoanPercent)]

def PoolParams.record (p : PoolParams) : Json := .object [
  ("pool_address", .text p.poolAddress),
  ("treasury", .text p.treasury),
  ("settlement_counterparty", .text p.settlementCounterparty),
  ("receiver_account", .text p.receiverAccount),
  ("margin", p.margin.record),
  ("liquidation", p.liquidation.record),
  ("governance", p.governance.record)]

end MoneyMarket
