import MoneyMarket.Ledger

/-!
# Changes of a ledger

What differs between two ledgers: the records that are new, changed or gone, and the users of
margin collateral when they are others than before. How a reserve is configured and from what it
takes its rates are not part of its record.
-/

namespace MoneyMarket

def Reserve.sameRecord (r s : Reserve) : Bool :=
  { r with asset := s.asset, config := s.config, strategy := s.strategy } = s

/-- The new and changed records, then the keys that are gone. -/
def Table.changes {κ α : Type} [DecidableEq κ] (same : α → α → Bool) (before after : Table κ α) :
    List (κ × Option α) :=
  (after.entries.filterMap fun e =>
      if (before.get? e.1).any (same · e.2) then none else some (e.1, some e.2)) ++
    (before.keys.filter fun k => !after.contains k).map fun k => (k, none)

structure LedgerChange where
  reserves : List (Key × Option Reserve)
  positions : List (Key × List (Key × Option Position))
  marginUsers : Option (List Key)

namespace Ledger

def sortedMarginUsers (l : Ledger) : List Key :=
  l.marginUsers.mergeSort fun a b => !decide (Text.points b.plain < Text.points a.plain)

def changes (before after : Ledger) : LedgerChange where
  reserves := before.reserves.changes Reserve.sameRecord after.reserves
  positions :=
    let users := after.positions.keys ++ before.positions.keys.filter fun u =>
      !after.positions.contains u
    users.filterMap fun user =>
      match (before.userPositions user).changes (· = ·) (after.userPositions user) with
      | [] => none
      | changed => some (user, changed)
  marginUsers :=
    if before.sortedMarginUsers = after.sortedMarginUsers then none
    else some after.sortedMarginUsers

end Ledger

end MoneyMarket
