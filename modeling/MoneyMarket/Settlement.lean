import MoneyMarket.Fault

/-!
# Settlement

The counterparty moves collateral out of margin accounts on instruction. It records what it takes,
in order, and may be offline.
-/

namespace MoneyMarket

/-- Move `amount` of `asset` out of the margin position of `account` to `destination`. -/
structure DebitInstruction where
  account : Name
  asset : Name
  amount : Quantity
  destination : String
  deriving DecidableEq, Repr

structure Settlement where
  offline : Bool := false
  instructions : List DebitInstruction := []
  deriving DecidableEq, Repr, Inhabited

def Settlement.submit (s : Settlement) (i : DebitInstruction) : Except Fault Settlement :=
  if s.offline then .error (.counterparty "counterparty offline")
  else .ok { s with instructions := s.instructions ++ [i] }

end MoneyMarket
