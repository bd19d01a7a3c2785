import MoneyMarket.Ledger

/-!
# Checkpoints

A session is a ledger with checkpoints to which it can go back. Going back writes the records of
the checkpoint over those of the ledger, drops what the checkpoint does not have, and puts what is
missing at the end.

A record that was put back in this way stays shared with its checkpoint: until the ledger drops it,
later changes to it are changes to the checkpoint's record, too.
-/

namespace MoneyMarket

namespace Entries

variable {κ α : Type} [DecidableEq κ]

/-- The entries of `live` that `saved` has, with the records of `saved`; then those of `saved` that
`live` has not. -/
def restored (live saved : List (κ × α)) : List (κ × α) :=
  (live.filterMap fun e => (find? e.1 saved).map fun v => (e.1, v)) ++
    saved.filter fun e => e.1 ∉ keys live

end Entries

def Table.restore {κ α : Type} [DecidableEq κ] (live saved : Table κ α) : Table κ α :=
  Table.ofList (Entries.restored live.entries saved.entries)

namespace Ledger

def restore (live saved : Ledger) : Ledger where
  reserves := live.reserves.restore saved.reserves
  positions := (live.positions.restore saved.positions).map fun user positions =>
    (live.userPositions user).restore positions
  marginUsers := saved.marginUsers

inductive RecordKey where
  | reserve (asset : Key)
  | position (user asset : Key)
  deriving DecidableEq, Repr

def recordKeys (l : Ledger) : List RecordKey :=
  l.reserves.keys.map .reserve ++
    l.positions.entries.flatMap fun e => e.2.keys.map (.position e.1)

def has (l : Ledger) : RecordKey → Bool
  | .reserve asset => (l.reserve? asset).isSome
  | .position user asset => (l.position? user asset).isSome

def copyRecord (source target : Ledger) (key : RecordKey) : Ledger :=
  match key with
  | .reserve asset =>
    match source.reserve? asset with
    | some r => target.setReserve asset r
    | none => target
  | .position user asset =>
    match source.position? user asset with
    | some p => target.setPosition user asset p
    | none => target

end Ledger

/-- A record of the ledger that is also one of the numbered checkpoint. -/
structure SharedRecord where
  key : Ledger.RecordKey
  checkpoint : Nat
  deriving DecidableEq, Repr

structure Session where
  ledger : Ledger
  /-- Oldest first. -/
  checkpoints : List Ledger := []
  shared : List SharedRecord := []

namespace Session

def update (s : Session) (ledger : Ledger) : Session where
  ledger := ledger
  checkpoints := s.shared.foldl (fun saved link =>
    saved.modify link.checkpoint fun c => ledger.copyRecord c link.key) s.checkpoints
  shared := s.shared.filter fun link => ledger.has link.key

def checkpoint (s : Session) : Session × Nat :=
  ({ s with checkpoints := s.checkpoints ++ [s.ledger] }, s.checkpoints.length)

/-- The records that going back to `saved` puts back. -/
def missingKeys (s : Session) (saved : Ledger) : List Ledger.RecordKey :=
  saved.recordKeys.filter fun key => !s.ledger.has key

/-- Goes back to a checkpoint; without it nothing happens. -/
def restore (s : Session) (index : Nat) : Session :=
  match s.checkpoints[index]? with
  | none => s
  | some saved =>
    let s' := s.update (s.ledger.restore saved)
    { s' with shared := s'.shared ++ (s.missingKeys saved).map fun key => ⟨key, index⟩ }

end Session

end MoneyMarket
