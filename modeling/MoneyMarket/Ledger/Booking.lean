import MoneyMarket.Ledger

/-!
# Bookings

Changes made to the ledger directly, without the pool's rules around them. A booking that fails
keeps what it had changed until then: the position it opened and the stages that were done.
-/

namespace MoneyMarket.Ledger

def heldReserve (l : Ledger) (asset : Name) : Except Fault Reserve :=
  match l.reserve? asset with
  | some r => .ok r
  | none => .error (.missingReserve asset)

def bookReserve (l : Ledger) (asset : Name) (stages : Reserve → List (Stage Reserve)) :
    Progress Ledger :=
  match l.heldReserve asset with
  | .error f => ⟨l, some f⟩
  | .ok r => (Stage.advance (stages r) r).map (l.setReserve asset)

def bookPosition (l : Ledger) (user asset : Name) (stages : List (Stage Reserve.WithPosition)) :
    Progress Ledger :=
  match l.heldReserve asset with
  | .error f => ⟨l, some f⟩
  | .ok r =>
    (Stage.advance stages (r, l.position user asset)).map
      ((l.openPosition user asset).setWithPosition user asset)

/-- Moves supply between two positions, which are opened first. To oneself nothing moves. -/
def bookTransfer (l : Ledger) (source target asset : Name) (amount : Int) : Progress Ledger :=
  match l.heldReserve asset with
  | .error f => ⟨l, some f⟩
  | .ok r =>
    let l := (l.openPosition source asset).openPosition target asset
    match r.transferShare (l.position source asset) amount with
    | .error f => ⟨l, some f⟩
    | .ok scaled =>
      let l := l.modifyPosition source asset fun p =>
        { p with scaledBalance := p.scaledBalance - scaled }
      ⟨l.modifyPosition target asset fun p =>
        { p with scaledBalance := p.scaledBalance + scaled }, none⟩

/-! ## Kinds of bookings -/

inductive Booking where
  | accrue (now : Int)
  | updateStableRate (change rate now : Int)
  | mintSupply (user : Name) (amount : Int)
  | burnSupply (user : Name) (amount : Int)
  | transferSupply (source target : Name) (amount : Int)
  | mintVariableDebt (user : Name) (amount : Int)
  | burnVariableDebt (user : Name) (amount : Int)
  | mintStableDebt (user : Name) (amount rate now : Int)
  | burnStableDebt (user : Name) (amount now : Int)
  | money (change : Int)
  deriving DecidableEq, Repr

def book (l : Ledger) (asset : Name) : Booking → Progress Ledger
  | .accrue now => l.bookReserve asset fun r => r.accrualStages now
  | .updateStableRate change rate now =>
    l.bookReserve asset fun _ => [fun r => r.updateStableRate change rate now]
  | .mintSupply user amount =>
    l.bookPosition user asset [fun rp => rp.1.mintSupply rp.2 amount]
  | .burnSupply user amount =>
    l.bookPosition user asset [fun rp => rp.1.burnSupply rp.2 amount]
  | .transferSupply source target amount => l.bookTransfer source target asset amount
  | .mintVariableDebt user amount =>
    l.bookPosition user asset [fun rp => rp.1.mintVariableDebt rp.2 amount]
  | .burnVariableDebt user amount =>
    l.bookPosition user asset [fun rp => rp.1.burnVariableDebt rp.2 amount]
  | .mintStableDebt user amount rate now =>
    l.bookPosition user asset (Reserve.stableDebtStages amount rate now)
  | .burnStableDebt user amount now =>
    l.bookPosition user asset [fun rp => rp.1.burnStableDebt rp.2 amount now]
  | .money change =>
    l.bookReserve asset fun _ =>
      [fun r => .ok { r with availableLiquidity := r.availableLiquidity + change }]

end MoneyMarket.Ledger
