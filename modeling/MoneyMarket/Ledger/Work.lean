import MoneyMarket.Ledger.Booking
import MoneyMarket.Ledger.Checkpoint

/-!
# Work on a ledger

A piece of work reads and changes the ledger step by step. It ends with a value, or stops at a
fault; then the ledger is as far as the work got. `atomically` goes back in that case.
-/

namespace MoneyMarket

abbrev LedgerWork := EStateM Fault Ledger

namespace LedgerWork

instance : MonadLift (Except Fault) LedgerWork where
  monadLift
    | .ok a => pure a
    | .error f => throw f

/-! ## Steps -/

def reserve (asset : Name) : LedgerWork Reserve := do (← get).reserve asset

def position (user asset : Name) : LedgerWork Position := return (← get).position user asset

def openPosition (user asset : Name) : LedgerWork Unit := modify (·.openPosition user asset)

def book (asset : Name) (booking : Ledger.Booking) : LedgerWork Unit := fun l =>
  let p := l.book asset booking
  match p.fault with
  | none => .ok () p.state
  | some f => .error f p.state

def setUsedAsCollateral (user asset : Name) (enabled : Bool) : LedgerWork Unit :=
  modify (·.modifyPosition user asset fun p => { p with usedAsCollateral := enabled })

/-! ## Outcomes -/

variable {α β : Type}

def outcome (work : LedgerWork α) (l : Ledger) : Ledger × Except Fault α :=
  match work l with
  | .ok a l' => (l', .ok a)
  | .error f l' => (l', .error f)

/-- The work as a whole or not at all: after a fault the ledger goes back to where it was. -/
def atomically (work : LedgerWork α) : LedgerWork α := fun l =>
  match work l with
  | .ok a l' => .ok a l'
  | .error f l' => .error f (l'.restore l)

theorem bind_eq_ok {work : LedgerWork α} {next : α → LedgerWork β} {l m : Ledger} {b : β} :
    (work >>= next) l = .ok b m ↔ ∃ a l', work l = .ok a l' ∧ next a l' = .ok b m := by
  show EStateM.bind work next l = .ok b m ↔ _
  unfold EStateM.bind
  constructor
  · intro h
    split at h
    · exact ⟨_, _, by assumption, h⟩
    · cases h
  · rintro ⟨a, l', h, hn⟩
    simp only [h]
    exact hn

end LedgerWork

end MoneyMarket
