import MoneyMarket.Fault
import MoneyMarket.Json.Equality

/-!
# Pool events

What the pool publishes when an operation has been done, with the time of its clock.
-/

namespace MoneyMarket

inductive PoolEvent.Content where
  | collateralEnabled (asset user : Name)
  | collateralDisabled (asset user : Name)
  | deposit (asset user : Name) (amount : Int)
  | withdraw (asset user recipient : Name) (amount : Int)
  | marginUsage (user : Name) (enabled : Bool)
  | borrow (asset user : Name) (amount : Int) (mode : RateMode) (rate : Int)
  | repay (asset user : Name) (amount : Int) (mode : RateMode)
  | liquidation (collateralAsset debtAsset user : Name) (debtRepaid collateralSeized : Quantity)
      (liquidator : Json) (receiveUnderlying : Bool)
  | marginLiquidation (user debtAsset collateralAsset : Name)
      (debtRepaid collateralSeized : Quantity) (destination : String)
  deriving DecidableEq

structure PoolEvent where
  timestamp : Int
  content : PoolEvent.Content
  deriving DecidableEq

namespace PoolEvent.Content

def name : Content → String
  | collateralEnabled _ _ => "ReserveUsedAsCollateralEnabled"
  | collateralDisabled _ _ => "ReserveUsedAsCollateralDisabled"
  | deposit _ _ _ => "Deposit"
  | withdraw _ _ _ _ => "Withdraw"
  | marginUsage _ _ => "MarginCollateralUsage"
  | borrow _ _ _ _ _ => "Borrow"
  | repay _ _ _ _ => "Repay"
  | liquidation _ _ _ _ _ _ _ => "LiquidationCall"
  | marginLiquidation _ _ _ _ _ _ => "MarginCollateralLiquidated"

def fields : Content → List (String × Json)
  | collateralEnabled asset user | collateralDisabled asset user =>
    [("asset", asset), ("user", user)]
  | deposit asset user amount =>
    [("asset", asset), ("user", user), ("amount", .whole amount)]
  | withdraw asset user recipient amount =>
    [("asset", asset), ("user", user), ("to", recipient),
      ("amount", .whole amount)]
  | marginUsage user enabled => [("user", user), ("enabled", .bool enabled)]
  | borrow asset user amount mode rate =>
    [("asset", asset), ("user", user), ("amount", .whole amount),
      ("rate_mode", .whole mode.number), ("rate", .whole rate)]
  | repay asset user amount mode =>
    [("asset", asset), ("user", user), ("amount", .whole amount),
      ("rate_mode", .whole mode.number)]
  | liquidation collateralAsset debtAsset user debtRepaid collateralSeized liquidator underlying =>
    [("collateral_asset", collateralAsset), ("debt_asset", debtAsset),
      ("user", user), ("debt_to_cover", debtRepaid.toJson),
      ("liquidated_collateral_amount", collateralSeized.toJson), ("liquidator", liquidator),
      ("receive_underlying", .bool underlying)]
  | marginLiquidation user debtAsset collateralAsset debtRepaid collateralSeized destination =>
    [("user", user), ("debt_asset", debtAsset),
      ("collateral_asset", collateralAsset), ("debt_repaid", debtRepaid.toJson),
      ("collateral_seized", collateralSeized.toJson), ("destination", .text destination)]

end PoolEvent.Content

end MoneyMarket
