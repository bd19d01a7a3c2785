import MoneyMarket.Table
import MoneyMarket.Progress

/-!
# The margin feed

A margin venue reports how an account stands, with a sequence number. The feed keeps the newest
report of each account: one whose number is lower than that of the stored one is ignored. Reports
are checked before that.
-/

namespace MoneyMarket

structure MarginSnapshot where
  maintenanceMargin : Int := 0
  markToMarket : Int := 0
  collateral : Int := 0
  valueAtRisk : Int := 0
  sequence : Int := 0
  deriving DecidableEq, Repr, Inhabited

/-- The collateral less a loss on the market, and not less than zero. -/
def MarginSnapshot.collateralValue (s : MarginSnapshot) : Int :=
  max 0 (s.collateral + min s.markToMarket 0)

structure MarginReport where
  maintenanceMargin : Reported := .whole 0
  markToMarket : Reported := .whole 0
  collateral : Reported := .whole 0
  valueAtRisk : Reported := .whole 0
  deriving Inhabited

namespace MarginReport

def wholeField (account : Name) (name : String) (v : Reported) : Except Fault Int :=
  match v.whole? with
  | some n => .ok n
  | none => .error (.refused (.marginFieldNotWhole name account))

def requireNonNegative (account : Name) (name : String) (v : Int) : Except Fault Unit :=
  if v < 0 then .error (.refused (.marginFieldNegative name account)) else .ok ()

/-- The snapshot that is reported: whole numbers, of which only the mark to market may be
negative. -/
def checked (r : MarginReport) (account : Name) (sequence : Int) :
    Except Fault MarginSnapshot := do
  let maintenanceMargin ← wholeField account "maintenance_margin" r.maintenanceMargin
  let markToMarket ← wholeField account "mark_to_market" r.markToMarket
  let collateral ← wholeField account "collateral" r.collateral
  let valueAtRisk ← wholeField account "value_at_risk" r.valueAtRisk
  requireNonNegative account "maintenance_margin" maintenanceMargin
  requireNonNegative account "collateral" collateral
  requireNonNegative account "value_at_risk" valueAtRisk
  return { maintenanceMargin, markToMarket, collateral, valueAtRisk, sequence }

end MarginReport

structure MarginFeed where
  snapshots : Table Key MarginSnapshot := ∅
  deriving DecidableEq, Inhabited

namespace MarginFeed

/-- The newest snapshot; all zeros before the first report. -/
def snapshot (f : MarginFeed) (account : Key) : MarginSnapshot :=
  (f.snapshots.get? account).getD {}

def isStale (f : MarginFeed) (account : Key) (sequence : Int) : Bool :=
  match f.snapshots.get? account with
  | some current => sequence < current.sequence
  | none => false

def push (f : MarginFeed) (account : Name) (report : MarginReport) (sequence : Int) :
    Except Fault (MarginFeed × Bool) := do
  let snapshot ← report.checked account sequence
  if f.isStale account sequence then return (f, false)
  else return (⟨f.snapshots.set account snapshot⟩, true)

theorem push_checked {f : MarginFeed} {account : Name} {report : MarginReport} {sequence : Int}
    {s : MarginSnapshot} (h : report.checked account sequence = .ok s) :
    f.push account report sequence =
      if f.isStale account sequence then .ok (f, false)
      else .ok (⟨f.snapshots.set account s⟩, true) := by
  unfold push
  rw [h]
  rfl

abbrev Counted := MarginFeed × Nat

def pushCounted (sequence : Int) (update : Name × MarginReport) : Stage Counted :=
  fun (f, n) => do
    let (f, stored) ← f.push update.1 update.2 sequence
    return (f, if stored then n + 1 else n)

/-- Takes the reports one after the other, under one number. The reports before a bad one stay. -/
def pushAll (f : MarginFeed) (updates : List (Name × MarginReport)) (sequence : Int) :
    Progress Counted :=
  Stage.advance (updates.map (pushCounted sequence)) (f, 0)

end MarginFeed

end MoneyMarket
