import MoneyMarket.Name
import MoneyMarket.Reported

/-!
# Why a request fails

A `Refusal` is the market's own answer to a request that it understands: it has a short code for
programs and a text for people. An `Invalid` value should never have been passed. A `Fault` is
either of the two, or what came from outside the market's rules.
-/

namespace MoneyMarket

/-- How a debt bears interest: at the rate of the day it was taken, or at the reserve's own. -/
inductive RateMode where
  | stable
  | floating
  deriving DecidableEq, Repr

namespace RateMode

def number : RateMode → Int
  | stable => 1
  | floating => 2

def label : RateMode → String
  | stable => "stable"
  | floating => "variable"

def ofNumber? (n : Int) : Option RateMode :=
  if n = 1 then some stable else if n = 2 then some floating else none

theorem number_injective {m n : RateMode} (h : m.number = n.number) : m = n := by
  cases m <;> cases n <;> first | rfl | cases h

theorem number_of_ofNumber? {n : Int} {m : RateMode} (h : ofNumber? n = some m) : n = m.number := by
  unfold ofNumber? at h
  split at h
  · cases h
    assumption
  · split at h <;> cases h
    assumption

end RateMode

inductive Scale where
  | wad
  | ray
  | percent
  deriving DecidableEq, Repr

def Scale.label : Scale → String
  | wad => "wad"
  | ray => "ray"
  | percent => "percent"

inductive AmountKind where
  | deposit
  | withdrawal
  | borrowing
  | repayment
  | debtToCover
  | collateralLimit
  deriving DecidableEq, Repr

def AmountKind.label : AmountKind → String
  | deposit => "deposit amount"
  | withdrawal => "withdraw amount"
  | borrowing => "borrow amount"
  | repayment => "repay amount"
  | debtToCover => "debt_to_cover"
  | collateralLimit => "max_collateral_to_liquidate"

/-! ## Refusals -/

/-- The causes for which the market refuses a request. -/
inductive Refusal where
  -- wrong caller
  | notGovernance
  | notCounterparty (caller : Json)
  | notPool (caller : String)
  -- the state of a reserve or of the pool
  | alreadyListed (asset : Name)
  | unlistedReserve (asset : Name)
  | unlistedReference (asset : Name)
  | inactiveReserve (asset : Name)
  | frozenReserve (asset : Name)
  | pausedReserve (asset : Name)
  | pausedPool
  | notPositive (kind : AmountKind)
  | coversNoDebt
  | borrowingDisabled (asset : Name)
  | stableBorrowingDisabled (asset : Name)
  | sameCurrency (user asset : Name)
  -- the state of an account
  | holdsNone (user asset : Name)
  | noCollateral (user : Name)
  | owesNone (user asset : Name)
  | noDebtOfMode (user : Name) (mode : RateMode) (asset : Name)
  | wouldBeUnhealthy (action : String) (user : Name) (healthFactor : Quantity)
  | toggleUnhealthy (user : Name) (healthFactor : Quantity)
  | alreadyUnhealthy (user : Name) (healthFactor : Quantity)
  | stillHealthy (user : Name) (healthFactor : Quantity)
  | notBorrowed (user asset : Name)
  | notLiquidatable (user : Name)
  -- amounts beyond what there is
  | balanceTooLow (user : Name) (balance : Int) (asset : Name) (asked : Int)
  | zeroLtv (user : Name)
  | collateralTooLow (user : Name) (needed held : Quantity)
  | liquidityTooLow (asset : Name) (held asked : Int)
  | liquidityTooLowToSeize (asset : Name) (held : Int) (needed : Quantity)
  | stableLoanTooLarge (amount : Int) (asset : Name) (limit : Int)
  -- infeasible values
  | zeroDivisor (scale : Scale)
  | shockAboveWhole
  | modelFactorTooHigh
  | priceNotWhole (asset : Json) (price : Reported)
  | priceNegative (asset : Json) (price : Int)
  | priceUnusable (asset : Json) (price : Reported)
  | marginFieldNotWhole (field : String) (account : Name)
  | marginFieldNegative (field : String) (account : Name)

namespace Refusal

/-- The short code on which callers match. -/
def code : Refusal → String
  | notGovernance | notCounterparty _ | notPool _ => "NOT_AUTHORIZED"
  | alreadyListed _ => "STATE_PRECONDITION"
  | unlistedReserve _ | unlistedReference _ => "UNKNOWN_RESERVE"
  | inactiveReserve _ => "NO_ACTIVE_RESERVE"
  | frozenReserve _ => "RESERVE_FROZEN"
  | pausedReserve _ | pausedPool => "IS_PAUSED"
  | notPositive _ | coversNoDebt => "INVALID_AMOUNT"
  | borrowingDisabled _ => "BORROWING_NOT_ENABLED"
  | stableBorrowingDisabled _ => "STABLE_BORROWING_NOT_ENABLED"
  | sameCurrency _ _ => "COLLATERAL_SAME_AS_BORROWING_CURRENCY"
  | holdsNone _ _ | noCollateral _ => "COLLATERAL_BALANCE_IS_0"
  | owesNone _ _ | noDebtOfMode _ _ _ => "NO_DEBT_OF_SELECTED_TYPE"
  | wouldBeUnhealthy _ _ _ | toggleUnhealthy _ _ | alreadyUnhealthy _ _ =>
    "HEALTH_FACTOR_LOWER_THAN_LIQUIDATION_THRESHOLD"
  | stillHealthy _ _ => "HEALTH_FACTOR_NOT_BELOW_THRESHOLD"
  | notBorrowed _ _ => "SPECIFIED_CURRENCY_NOT_BORROWED_BY_USER"
  | notLiquidatable _ => "COLLATERAL_CANNOT_BE_LIQUIDATED"
  | balanceTooLow _ _ _ _ => "NOT_ENOUGH_AVAILABLE_USER_BALANCE"
  | zeroLtv _ | collateralTooLow _ _ _ => "COLLATERAL_CANNOT_COVER_NEW_BORROW"
  | liquidityTooLow _ _ _ => "NOT_ENOUGH_LIQUIDITY"
  | liquidityTooLowToSeize _ _ _ => "NOT_ENOUGH_LIQUIDITY_TO_LIQUIDATE"
  | stableLoanTooLarge _ _ _ => "AMOUNT_BIGGER_THAN_MAX_LOAN_SIZE_STABLE"
  | zeroDivisor _ | shockAboveWhole | modelFactorTooHigh => "INFEASIBLE_OPERATION"
  | priceNotWhole _ _ | priceNegative _ _ | priceUnusable _ _ | marginFieldNotWhole _ _
  | marginFieldNegative _ _ => "INVALID_MARKET_VALUE"

def message : Refusal → String
  | notGovernance => "NotGovernance"
  | notCounterparty caller => caller.plain ++ " is not the settlement counterparty"
  | notPool caller => s!"{caller} may not liquidate margin collateral"
  | alreadyListed asset => s!"reserve {asset} already initialized"
  | unlistedReserve asset => s!"reserve {asset} is not listed"
  | unlistedReference asset => s!"margin reference asset {asset} is not listed"
  | inactiveReserve asset => s!"reserve {asset} is not active"
  | frozenReserve asset => s!"reserve {asset} is frozen"
  | pausedReserve asset => s!"reserve {asset} is paused"
  | pausedPool => "pool is paused"
  | notPositive kind => kind.label ++ " must be positive"
  | coversNoDebt => "seizable margin collateral covers no debt"
  | borrowingDisabled asset => s!"borrowing {asset} is disabled"
  | stableBorrowingDisabled asset => s!"stable borrowing {asset} is disabled"
  | sameCurrency user asset => s!"{user} would borrow {asset} at stable rate against itself"
  | holdsNone user asset => s!"{user} holds no {asset}"
  | noCollateral user => s!"{user} has no collateral"
  | owesNone user asset => s!"{user} owes no {asset}"
  | noDebtOfMode user mode asset => s!"{user} has no " ++ mode.label ++ s!" {asset} debt"
  | wouldBeUnhealthy action user hf => s!"{action} would leave {user} with health factor {hf}"
  | toggleUnhealthy user hf =>
    s!"margin collateral toggle would leave {user} with health factor {hf}"
  | alreadyUnhealthy user hf => s!"{user} health factor is {hf}"
  | stillHealthy user hf => s!"health factor of {user} is {hf}, not below 1"
  | notBorrowed user asset => s!"{user} has no {asset} debt"
  | notLiquidatable user => s!"chosen collateral of {user} cannot be liquidated"
  | balanceTooLow user balance asset asked => s!"{user} holds {balance} {asset}, asked for {asked}"
  | zeroLtv user => s!"{user} collateral has zero LTV"
  | collateralTooLow user needed held => s!"{user} needs {needed} collateral, has {held}"
  | liquidityTooLow asset held asked => s!"{asset} reserve holds {held}, asked for {asked}"
  | liquidityTooLowToSeize asset held needed => s!"{asset} reserve holds {held}, needs {needed}"
  | stableLoanTooLarge amount asset limit => s!"stable loan of {amount} {asset} exceeds {limit}"
  | zeroDivisor scale => scale.label ++ "_div by zero"
  | shockAboveWhole => "withdrawal shock probability above 100%"
  | modelFactorTooHigh => "model reserve factor must be below 100%"
  | priceNotWhole asset price =>
    "price for " ++ asset.plain ++ " must be an integer, got " ++ price.shown
  | priceNegative asset price =>
    "price for " ++ asset.plain ++ s!" must be non-negative, got {price}"
  | priceUnusable asset price => "invalid price for " ++ asset.plain ++ ": " ++ price.shown
  | marginFieldNotWhole field account => s!"margin field {field} for {account} must be an integer"
  | marginFieldNegative field account =>
    s!"margin field {field} for {account} must be non-negative"

def figures : Refusal → List Quantity
  | wouldBeUnhealthy _ _ hf | toggleUnhealthy _ hf | alreadyUnhealthy _ hf | stillHealthy _ hf =>
    [hf]
  | balanceTooLow _ balance _ asked => [.whole balance, .whole asked]
  | collateralTooLow _ needed held => [needed, held]
  | liquidityTooLow _ held asked => [.whole held, .whole asked]
  | liquidityTooLowToSeize _ held needed => [.whole held, needed]
  | stableLoanTooLarge amount _ limit => [.whole amount, .whole limit]
  | priceNegative _ price => [.whole price]
  | priceUnusable _ price => price.whole?.toList.map .whole
  | _ => []

end Refusal

/-! ## Invalid values -/

/-- The values that no caller may pass. -/
inductive Invalid where
  | negativeOperand (value : Quantity)
  | negativeInput (name : String) (value : Int)
  | updateInFuture
  | reserveFactorTooHigh
  | optimalUtilizationOutside
  | ltvAboveThreshold
  | accrualBackwards (asset : Name) (now last : Int)
  | negativeRateChange
  | clockBackwards (time now : Int)
  | negativeSeconds
  | rateMode (number : Int)
  | settingNotWhole (name raw : String)
  | settingNotDecimal (name raw : String)
  | settingNegative (name value : String)
  | settingNotNumber
  | figureTooLong
  deriving DecidableEq, Repr

def tooManyDigits : String := "Exceeds the limit (4300 digits) for integer string conversion"

def digitsAdvice : String := "; use sys.set_int_max_str_digits() to increase the limit"

def Invalid.message : Invalid → String
  | negativeOperand value => s!"fixed-point operand must be non-negative, got {value}"
  | negativeInput name value => s!"{name} must be non-negative, got {value}"
  | updateInFuture => "now precedes last update timestamp"
  | reserveFactorTooHigh => "reserve_factor cannot exceed 10000 bp"
  | optimalUtilizationOutside => "optimal_utilization must be within [0, 1] ray"
  | ltvAboveThreshold => "base_ltv cannot exceed liquidation_threshold"
  | accrualBackwards asset now last => s!"cannot accrue {asset} backwards: {now} < {last}"
  | negativeRateChange => "rate_changed must be non-negative"
  | clockBackwards time now => s!"time cannot go backwards: {time} < {now}"
  | negativeSeconds => "seconds must be non-negative"
  | rateMode number => s!"{number} is not a valid RateMode"
  | settingNotWhole name raw => s!"{name} must be an integer, got " ++ Text.quoted raw
  | settingNotDecimal name raw => s!"{name} must be a decimal number, got " ++ Text.quoted raw
  | settingNegative name value => s!"{name} must be non-negative, got {value}"
  | settingNotNumber => "cannot convert NaN to integer"
  | figureTooLong => tooManyDigits ++ digitsAdvice

def Invalid.figures : Invalid → List Int
  | negativeInput _ value => [value]
  | negativeOperand (.whole value) => [value]
  | accrualBackwards _ now last => [now, last]
  | clockBackwards time now => [time, now]
  | rateMode number => [number]
  | _ => []

/-! ## Faults -/

inductive Fault where
  | refused (cause : Refusal)
  | invalid (cause : Invalid)
  | counterparty (reason : String)
  | missingReserve (asset : Name)
  | notGoverned
  /-- A list or an object stands where a name has to. -/
  | nameless
  | tooLarge
  | divisionByZero
  /-- No fault of the market: it would go on and book a binary64 amount, and what it does from there
  on is not described. Among whole tokens this is never met. -/
  | notBookable

def Fault.message? : Fault → Option String
  | refused cause => some cause.message
  | invalid cause => some cause.message
  | counterparty reason => some reason
  | missingReserve asset => some asset.plain
  | _ => none

/-- The fault that is told. A message holds no figure with more digits than are written; a fault
that would have to tell one is told as that. -/
def Fault.worded : Fault → Fault
  | refused cause =>
    if cause.figures.any Quantity.isTooLong then invalid .figureTooLong else refused cause
  | invalid cause =>
    if cause.figures.any Numeral.isTooLong then invalid .figureTooLong else invalid cause
  | fault => fault

def Json.named (v : Json) : Except Fault Name :=
  match v.name? with
  | some name => .ok name
  | none => .error .nameless

end MoneyMarket
