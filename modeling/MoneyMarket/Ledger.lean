import MoneyMarket.Table
import MoneyMarket.Reserve.Accrual
import MoneyMarket.Reserve.Balance

/-!
# The ledger

All reserves by asset, all positions by user and asset, and the users who count their margin
collateral. Reserves and positions keep the order in which they were made. They are found by key:
however a name is spelled, it finds the same record.

Every amount is a whole number. Where a token has less than zero decimals, a liquidation can move
binary64 amounts, and the market books these as well; ledgers with such amounts are not described.
-/

namespace MoneyMarket

structure Ledger where
  reserves : Table Key Reserve := ∅
  positions : Table Key (Table Key Position) := ∅
  marginUsers : List Key := []
  deriving DecidableEq, Inhabited

namespace Ledger

/-! ## Reading -/

def reserve? (l : Ledger) (asset : Key) : Option Reserve := l.reserves.get? asset

def reserve (l : Ledger) (asset : Name) : Except Fault Reserve :=
  match l.reserve? asset with
  | some r => .ok r
  | none => .error (.refused (.unlistedReserve asset))

def userPositions (l : Ledger) (user : Key) : Table Key Position :=
  (l.positions.get? user).getD ∅

def position? (l : Ledger) (user asset : Key) : Option Position :=
  (l.userPositions user).get? asset

/-- The position; an empty one where there is none. -/
def position (l : Ledger) (user : Key) (asset : Name) : Position :=
  (l.position? user asset).getD { asset }

def usesMargin (l : Ledger) (user : Key) : Bool := l.marginUsers.contains user

/-- No listed token has less than zero decimals. Then all values are whole numbers, and so is what a
liquidation moves. -/
def WholeTokens (l : Ledger) : Prop := ∀ a r, l.reserve? a = some r → 0 ≤ r.config.decimals

instance (l : Ledger) : Decidable l.WholeTokens :=
  decidable_of_iff (∀ e ∈ l.reserves.entries, 0 ≤ e.2.config.decimals) <| by
    constructor
    · intro h a r hr
      exact h (a, r) (Table.mem_of_get? hr)
    · intro h e he
      exact h e.1 e.2 (Table.get?_of_mem he)

/-! ## Writing -/

def setReserve (l : Ledger) (asset : Key) (r : Reserve) : Ledger :=
  { l with reserves := l.reserves.set asset r }

def setPosition (l : Ledger) (user asset : Key) (p : Position) : Ledger :=
  { l with positions := l.positions.set user ((l.userPositions user).set asset p) }

def openPosition (l : Ledger) (user : Key) (asset : Name) : Ledger :=
  l.setPosition user asset (l.position user asset)

def modifyPosition (l : Ledger) (user : Key) (asset : Name) (f : Position → Position) :
    Ledger :=
  l.setPosition user asset (f (l.position user asset))

def setWithPosition (l : Ledger) (user asset : Key) (rp : Reserve.WithPosition) : Ledger :=
  (l.setReserve asset rp.1).setPosition user asset rp.2

def setUsesMargin (l : Ledger) (user : Key) (enabled : Bool) : Ledger :=
  let others := l.marginUsers.filter (· ≠ user)
  { l with marginUsers := if enabled then others ++ [user] else others }

def dropReserve (l : Ledger) (asset : Key) : Ledger :=
  { l with reserves := l.reserves.erase asset }

def dropPosition (l : Ledger) (user asset : Key) : Ledger :=
  { l with positions := l.positions.set user ((l.userPositions user).erase asset) }

/-! ## Facts -/

@[simp] theorem reserve?_setReserve (l : Ledger) (a b : Key) (r : Reserve) :
    (l.setReserve a r).reserve? b = if b = a then some r else l.reserve? b := by
  simp [setReserve, reserve?]

theorem map_reserve?_setReserve {α : Type} {l : Ledger} {a : Key} {r s : Reserve}
    (hr : l.reserve? a = some r) {f : Reserve → α} (hs : f s = f r) (b : Key) :
    ((l.setReserve a s).reserve? b).map f = (l.reserve? b).map f := by
  rw [reserve?_setReserve]
  split
  · rename_i hb
    rw [hb, hr, Option.map_some, Option.map_some, hs]
  · rfl

@[simp] theorem reserve?_setPosition (l : Ledger) (u a b : Key) (p : Position) :
    (l.setPosition u a p).reserve? b = l.reserve? b := rfl

@[simp] theorem userPositions_setReserve (l : Ledger) (a u : Key) (r : Reserve) :
    (l.setReserve a r).userPositions u = l.userPositions u := rfl

@[simp] theorem position?_setReserve (l : Ledger) (a u b : Key) (r : Reserve) :
    (l.setReserve a r).position? u b = l.position? u b := rfl

theorem userPositions_setPosition (l : Ledger) (u v a : Key) (p : Position) :
    (l.setPosition u a p).userPositions v =
      if v = u then (l.userPositions u).set a p else l.userPositions v := by
  by_cases h : v = u <;> simp [setPosition, userPositions, h]

@[simp] theorem position?_setPosition (l : Ledger) (u v a b : Key) (p : Position) :
    (l.setPosition u a p).position? v b =
      if v = u ∧ b = a then some p else l.position? v b := by
  unfold position?
  rw [userPositions_setPosition]
  by_cases hv : v = u
  · by_cases hb : b = a <;> simp [hv, hb]
  · simp [hv]

theorem usesMargin_setUsesMargin (l : Ledger) (u v : Key) (enabled : Bool) :
    (l.setUsesMargin u enabled).usesMargin v = if v = u then enabled else l.usesMargin v := by
  cases enabled <;> by_cases h : v = u <;> simp [setUsesMargin, usesMargin, h]

end Ledger

end MoneyMarket
