import MoneyMarket.Numeral.Decimal
import MoneyMarket.Numeral.Whole
import MoneyMarket.Params

/-!
# Parameters from the environment

Variables override the parameters of a pool. A blank variable counts as not set. A variable that is
set must be well formed; the first that is not is named in the error.
-/

namespace MoneyMarket

abbrev Environment := String → Option String

namespace Environment

open MoneyMarket.Text

/-- The text of a variable that is set and not blank. -/
def setting? (env : Environment) (name : String) : Option String :=
  (env name).filter fun raw => trimmed raw ≠ ""

def wholeSetting (name raw : String) : Except Fault Int :=
  match Numeral.whole (trimmed raw) with
  | .error _ => .error (.invalid (.settingNotWhole name raw))
  | .ok n => if n < 0 then .error (.invalid (.settingNegative name (toString n))) else .ok n

def wadSetting (name raw : String) : Except Fault Int :=
  match Decimal.wad (trimmed raw) with
  | .error .notANumber => .error (.invalid .settingNotNumber)
  | .error _ => .error (.invalid (.settingNotDecimal name raw))
  | .ok n => if n < 0 then .error (.invalid (.settingNegative name (quoted raw))) else .ok n

def wholeOr (env : Environment) (name : String) (default : Int) : Except Fault Int :=
  match env.setting? name with
  | none => .ok default
  | some raw => wholeSetting name raw

def wadOr (env : Environment) (name : String) (default : Int) : Except Fault Int :=
  match env.setting? name with
  | none => .ok default
  | some raw => wadSetting name raw

def textOr (env : Environment) (name default : String) : String :=
  match env.setting? name with
  | none => default
  | some raw => trimmed raw

end Environment

def PoolParams.load (base : PoolParams) (env : Environment) : Except Fault PoolParams := do
  let ltv ← env.wholeOr "POOL_MARGIN_LTV" base.margin.ltv
  let liquidationThreshold ←
    env.wholeOr "POOL_MARGIN_LIQUIDATION_THRESHOLD" base.margin.liquidationThreshold
  let liquidationBonus ← env.wholeOr "POOL_MARGIN_LIQUIDATION_BONUS" base.margin.liquidationBonus
  let closeFactor ← env.wholeOr "POOL_CLOSE_FACTOR" base.liquidation.closeFactor
  let fullLiquidationHealthFactor ←
    env.wadOr "POOL_FULL_LIQUIDATION_HF" base.liquidation.fullLiquidationHealthFactor
  return { base with
    treasury := env.textOr "POOL_TREASURY_ADDRESS" base.treasury
    settlementCounterparty :=
      env.textOr "POOL_SETTLEMENT_ADDRESS" base.settlementCounterparty
    receiverAccount := env.textOr "POOL_RECEIVER_ADDRESS" base.receiverAccount
    margin := {
      ltv, liquidationThreshold, liquidationBonus
      referenceAsset := env.textOr "POOL_MARGIN_REFERENCE_ASSET" base.margin.referenceAsset }
    liquidation := { base.liquidation with closeFactor, fullLiquidationHealthFactor }
    governance := { base.governance with
      governance := env.textOr "POOL_GOVERNANCE_ADDRESS" base.governance.governance } }

end MoneyMarket
