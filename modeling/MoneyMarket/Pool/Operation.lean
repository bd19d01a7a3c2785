import MoneyMarket.Pool.Account
import MoneyMarket.Pool.Borrow
import MoneyMarket.Pool.Liquidate
import MoneyMarket.Pool.Supply

/-!
# Operations and runs

Everything that can be done to a pool, as data. `perform` does one operation; a run does several,
one after the other, whether each is done or fails.
-/

namespace MoneyMarket.Pool

inductive Operation where
  | initReserve (config : ReserveConfig) (strategy : RateStrategy)
  | setReserveActive (asset : Name) (active : Bool)
  | setReserveFrozen (asset : Name) (frozen : Bool)
  | setReservePaused (asset : Name) (paused : Bool)
  | setPaused (paused : Bool)
  | setTimestamp (time : Int)
  | advanceTime (seconds : Int)
  | govern (asset : Name) (setting : GovernedSetting) (caller : String) (value : Int)
  | setPrice (asset : Json) (price : Reported)
  | pushMargin (user : Name) (report : MarginReport) (sequence : Int)
  | setOffline (offline : Bool)
  | deposit (asset : Name) (amount : Int) (user : Name)
  | withdraw (asset : Name) (amount : Int) (user : Name) (recipient : Option Name)
  | borrow (asset : Name) (amount mode : Int) (user : Name)
  | repay (asset : Name) (amount mode : Int) (user : Name)
  | setUsageAsCollateral (user asset : Name) (enabled : Bool)
  | setUsingMargin (user : Name) (enabled : Bool)
  | liquidate (call : LiquidationCall)
  | liquidateMargin (caller : Json) (request : MarginRequest)

inductive Outcome where
  | done
  | amount (n : Int)
  | stored (b : Bool)
  | time (t : Int)
  | liquidated (result : LiquidationResult)

def requireMode (p : Pool) (asset : Name) (number : Int) : Except Fault RateMode := do
  let _ ← p.ledger.reserve asset
  match RateMode.ofNumber? number with
  | some mode => return mode
  | none => throw (.invalid (.rateMode number))

def withMode {α : Type} (p : Pool) (asset : Name) (number : Int) (f : RateMode → Attempt α) :
    Attempt α :=
  match p.requireMode asset number with
  | .ok mode => f mode
  | .error fault => (p, .error fault)

def Attempt.answer {α : Type} (a : Attempt α) (f : α → Outcome) : Attempt Outcome :=
  (a.1, a.2.map f)

def changeOnly (p : Pool) (result : Except Fault Pool) : Attempt Outcome :=
  p.change (result.map fun p' => (p', .done))

def perform (p : Pool) : Operation → Attempt Outcome
  | .initReserve config strategy => p.changeOnly (p.initReserve config strategy)
  | .setReserveActive asset active => p.changeOnly (p.setReserveActive asset active)
  | .setReserveFrozen asset frozen => p.changeOnly (p.setReserveFrozen asset frozen)
  | .setReservePaused asset paused => p.changeOnly (p.setReservePaused asset paused)
  | .setPaused paused => (p.setPaused paused, .ok .done)
  | .setTimestamp time => p.changeOnly (p.setTimestamp time)
  | .advanceTime seconds => p.change ((p.advanceTime seconds).map fun p' => (p', .time p'.clock))
  | .govern asset setting caller value => p.changeOnly (p.govern asset setting caller value)
  | .setPrice asset price => p.changeOnly (p.setPrice asset price)
  | .pushMargin user report sequence =>
    p.change ((p.pushMargin user report sequence).map fun r => (r.1, .stored r.2))
  | .setOffline offline => ({ p with settlement := { p.settlement with offline } }, .ok .done)
  | .deposit asset amount user => (p.deposit asset amount user).answer fun _ => .done
  | .withdraw asset amount user recipient =>
    (p.withdraw asset amount user recipient).answer .amount
  | .borrow asset amount mode user =>
    p.withMode asset mode fun mode => (p.borrow asset amount mode user).answer fun _ => .done
  | .repay asset amount mode user =>
    p.withMode asset mode fun mode => (p.repay asset amount mode user).answer .amount
  | .setUsageAsCollateral user asset enabled =>
    (p.setUsageAsCollateral user asset enabled).answer fun _ => .done
  | .setUsingMargin user enabled => (p.setUsingMargin user enabled).answer fun _ => .done
  | .liquidate call => (p.liquidate call).answer .liquidated
  | .liquidateMargin caller request => (p.liquidateMargin caller request).answer .liquidated

/-- The pool after an operation, done or failed. -/
def after (p : Pool) (op : Operation) : Pool := (p.perform op).1

def run (p : Pool) (ops : List Operation) : Pool := ops.foldl after p

/-- The pools that a new pool can become, whatever tokens are listed. -/
def Attainable (p : Pool) : Prop :=
  ∃ (params : PoolParams) (clock : Int) (ops : List Operation),
    p = run { params, clock } ops

/-- The pools that a new pool can become with whole tokens. Their ledgers are described in full:
nothing that was done on the way moved a binary64 amount. -/
structure Reachable (p : Pool) : Prop where
  attainable : Attainable p
  whole : p.ledger.WholeTokens

@[simp] theorem run_nil (p : Pool) : p.run [] = p := rfl

theorem run_append (p : Pool) (ops more : List Operation) :
    p.run (ops ++ more) = (p.run ops).run more := by
  simp [run]

theorem attainable_run {p : Pool} (h : Attainable p) (ops : List Operation) :
    Attainable (p.run ops) := by
  obtain ⟨params, clock, earlier, rfl⟩ := h
  exact ⟨params, clock, earlier ++ ops, (run_append _ earlier ops).symm⟩

theorem attainable_after {p : Pool} (h : Attainable p) (op : Operation) : Attainable (p.after op) :=
  attainable_run h [op]

end MoneyMarket.Pool
