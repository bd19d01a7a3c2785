import MoneyMarket.Name

/-!
# Risk parameters of a reserve

Loan-to-value, liquidation threshold, liquidation bonus and reserve factor are in basis points.
-/

namespace MoneyMarket

structure ReserveConfig where
  symbol : Name
  decimals : Int
  baseLtv : Int
  liquidationThreshold : Int
  liquidationBonus : Int
  reserveFactor : Int
  borrowingEnabled : Bool := true
  stableBorrowingEnabled : Bool := false
  deriving DecidableEq, Repr

namespace ReserveConfig

def usdc : ReserveConfig where
  symbol := .text "USDC"
  decimals := 6
  baseLtv := 8000
  liquidationThreshold := 8500
  liquidationBonus := 10500
  reserveFactor := 1000

def weth : ReserveConfig where
  symbol := .text "WETH"
  decimals := 18
  baseLtv := 8000
  liquidationThreshold := 8250
  liquidationBonus := 10500
  reserveFactor := 1000

def dai : ReserveConfig where
  symbol := .text "DAI"
  decimals := 18
  baseLtv := 7500
  liquidationThreshold := 8000
  liquidationBonus := 10500
  reserveFactor := 1000

def shipped : List (String × ReserveConfig) := [("USDC", usdc), ("WETH", weth), ("DAI", dai)]

end ReserveConfig

end MoneyMarket
