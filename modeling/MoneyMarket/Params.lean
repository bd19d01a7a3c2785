import MoneyMarket.Rates.Governed

/-!
# Parameters of a pool

Loan-to-value, thresholds, bonuses and the close factor are in basis points, the health factor for
full liquidation in wad.
-/

namespace MoneyMarket

structure MarginParams where
  ltv : Int := 8000
  liquidationThreshold : Int := 10000
  liquidationBonus : Int := 10500
  referenceAsset : String := "WETH"
  deriving DecidableEq, Repr, Inhabited

structure LiquidationParams where
  closeFactor : Int := 5000
  /-- Below this health factor the whole debt may be repaid at once. -/
  fullLiquidationHealthFactor : Int := 950000000000000000
  maxStableLoanPercent : Int := 2500
  deriving DecidableEq, Repr, Inhabited

structure PoolParams where
  poolAddress : String := "lending-pool"
  treasury : String := "treasury"
  settlementCounterparty : String := "fundlock"
  receiverAccount : String := "receiver"
  margin : MarginParams := {}
  liquidation : LiquidationParams := {}
  governance : GovernedParams := {}
  deriving DecidableEq, Repr, Inhabited

end MoneyMarket
