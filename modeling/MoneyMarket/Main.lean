import MoneyMarket.CommandLine.Run

/-!
# The program

Usage: `moneymarket SCENARIO [--users USER ...] [--stop-on-error] [--log-level LEVEL]`
-/

namespace MoneyMarket.CommandLine

def usage : String :=
  "usage: moneymarket SCENARIO [--users USER ...] [--stop-on-error] [--log-level LEVEL]"

def explanation : Trouble → String
  | .rejected _ => usage
  | .noLogLevel => "no log level"
  | .unreadable .directory => "the scenario is a directory"
  | .unreadable _ => "no such file"
  | .notJson _ => "the scenario is not JSON"
  | .parameters _ => "bad parameters"
  | .scenario _ => "the scenario is malformed"

def settingNames : List String := [
  "POOL_MARGIN_LTV", "POOL_MARGIN_LIQUIDATION_THRESHOLD", "POOL_MARGIN_LIQUIDATION_BONUS",
  "POOL_CLOSE_FACTOR", "POOL_FULL_LIQUIDATION_HF", "POOL_TREASURY_ADDRESS",
  "POOL_SETTLEMENT_ADDRESS", "POOL_RECEIVER_ADDRESS", "POOL_MARGIN_REFERENCE_ASSET",
  "POOL_GOVERNANCE_ADDRESS"]

def environment : IO Environment := do
  let settings ← settingNames.filterMapM fun name => do
    return (← IO.getEnv name).map (name, ·)
  return fun name => settings.lookup name

def fileText (path : String) : IO (Except Unreadable String) := do
  match pathFault? path with
  | some cause => return .error cause
  | none =>
    try return .ok (← IO.FS.readFile path)
    catch _ => return .error .missing

def stop : Trouble → IO UInt32
  | .rejected .helpWanted => do
    IO.println usage
    return 0
  | .rejected .misuse => do
    IO.eprintln usage
    return 2
  | t => do
    IO.eprintln (t.message?.getD (explanation t))
    return 1

def tell (a : Answer) : IO UInt32 := do
  if let some v := a.printed then IO.println v.printed
  IO.eprint a.complaint
  return UInt32.ofNat a.exitCode

def serve (r : Request) : IO UInt32 := do
  if r.logLevel.isNone then return ← stop .noLogLevel
  match ← fileText r.scenario with
  | .error cause => stop (.unreadable cause)
  | .ok text => match r.answer (← environment) text with
    | .error t => stop t
    | .ok a => tell a

end MoneyMarket.CommandLine

def main (args : List String) : IO UInt32 :=
  match MoneyMarket.CommandLine.request args with
  | .error cause => MoneyMarket.CommandLine.stop (.rejected cause)
  | .ok r => MoneyMarket.CommandLine.serve r
