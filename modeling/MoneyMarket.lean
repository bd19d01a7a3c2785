import MoneyMarket.Ledger.Change
import MoneyMarket.Main
import MoneyMarket.Proofs.FixedPoint.Display
import MoneyMarket.Proofs.Interest.Expansion
import MoneyMarket.Proofs.Ledger.Orderly
import MoneyMarket.Proofs.Ledger.Reports
import MoneyMarket.Proofs.Ledger.Sessions
import MoneyMarket.Proofs.Liquidation.Execution
import MoneyMarket.Proofs.Liquidation.Fairness
import MoneyMarket.Proofs.MarginFeed.Bulk
import MoneyMarket.Proofs.Params
import MoneyMarket.Proofs.Pool.Atomicity
import MoneyMarket.Proofs.Pool.Averages
import MoneyMarket.Proofs.Pool.Balances
import MoneyMarket.Proofs.Pool.BorrowLimit
import MoneyMarket.Proofs.Pool.Closed
import MoneyMarket.Proofs.Pool.Commuting
import MoneyMarket.Proofs.Pool.Debits
import MoneyMarket.Proofs.Pool.EmptyCollateral
import MoneyMarket.Proofs.Pool.Freshness
import MoneyMarket.Proofs.Pool.Growth
import MoneyMarket.Proofs.Pool.Liquidation
import MoneyMarket.Proofs.Pool.Orderly
import MoneyMarket.Proofs.Pool.Refusals
import MoneyMarket.Proofs.Pool.RiskFigures
import MoneyMarket.Proofs.Pool.Safety
import MoneyMarket.Proofs.Pool.Seizure
import MoneyMarket.Proofs.Pool.StableDebt
import MoneyMarket.Proofs.Pool.Switches
import MoneyMarket.Proofs.Pool.Trading
import MoneyMarket.Proofs.Pool.UsableCollateral
import MoneyMarket.Proofs.Rates.Formulas
import MoneyMarket.Proofs.Rates.Rising
import MoneyMarket.Proofs.Reserve.Splitting
import MoneyMarket.Proofs.Reserve.StableAverage
import MoneyMarket.Proofs.Reserve.StoredIndices
import MoneyMarket.Proofs.Scenario.Amounts
import MoneyMarket.Proofs.Scenario.Replay
import MoneyMarket.Rates.Curve
import MoneyMarket.Proofs.Liquidation.Described
