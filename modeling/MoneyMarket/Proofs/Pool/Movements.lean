import MoneyMarket.Proofs.Ledger.Assessment
import MoneyMarket.Proofs.Ledger.Movements
import MoneyMarket.Proofs.Pool.Completed

/-!
# What operations move

A deposit, a withdrawal, a loan and a repayment that are done have moved their amount in one holding
of one account.
-/

namespace MoneyMarket.Pool

open MoneyMarket.FixedPoint MoneyMarket.Ledger MoneyMarket.LedgerWork MoneyMarket.Reserve

/-! ## Amounts -/

/-- The account and the reserve in which an operation moves its amount, and what it moves there. -/
def Operation.Moves (held : Holding) (user asset : Name) : Operation → Prop
  | .deposit a _ u | .withdraw a _ u _ => held = .supply ∧ a = asset ∧ u = user
  | .borrow a _ number u | .repay a _ number u =>
    (∃ mode : RateMode, number = mode.number ∧ held = mode.holding) ∧ a = asset ∧ u = user
  | _ => False

/-- What an operation with this answer adds to a balance: a deposit or a loan. -/
def Operation.added : Operation → Except Fault Outcome → Int
  | .deposit _ amount _, .ok _ | .borrow _ amount _ _, .ok _ => amount
  | _, _ => 0

/-- What it takes from a balance: a withdrawal or a repayment. -/
def Operation.taken : Operation → Except Fault Outcome → Int
  | .withdraw _ _ _ _, .ok (.amount n) | .repay _ _ _ _, .ok (.amount n) => n
  | _, _ => 0

@[simp] theorem Operation.added_error (op : Operation) (f : Fault) : op.added (.error f) = 0 := by
  cases op <;> rfl

@[simp] theorem Operation.taken_error (op : Operation) (f : Fault) : op.taken (.error f) = 0 := by
  cases op <;> rfl

inductive Operation.AsksAll (displayed : Int) : Operation → Prop
  | withdraw {asset user : Name} {amount : Int} {recipient : Option Name}
    (h : amount = maxAmount ∨ amount = displayed) :
    AsksAll displayed (.withdraw asset amount user recipient)
  | repay {asset user : Name} {amount number : Int} (h : displayed ≤ amount) :
    AsksAll displayed (.repay asset amount number user)

variable {p : Pool} {user asset : Name} {amount : Int} {mode : RateMode} {l m : Ledger}
  {op : Operation} {held : Holding}

/-! ## Work that is done -/

theorem debtOfMode_nonneg {now debt : Int} {r : Reserve} {pos : Position}
    (h : debtOfMode r pos mode now = .ok debt) : 0 ≤ debt := by
  cases mode with
  | stable => exact stableDebt_nonneg h
  | floating => exact variableDebt_nonneg h

section Work

variable (hl : Timely p.clock l)
include hl

theorem depositing_movement {receipt : Receipt Unit}
    (h : p.depositing asset amount user l = .ok receipt m) :
    ∃ r s pos, Movement .supply p.clock user asset amount l r m s pos := by
  obtain ⟨_, first, hbook, _⟩ := depositing_completed h
  exact bookDeposit_movement hl hbook

theorem withdrawing_movement {recipient : Option Name} {receipt : Receipt Int}
    (h : p.withdrawing asset amount user recipient l = .ok receipt m) :
    ∃ r s pos balance, Movement .supply p.clock user asset (-receipt.value) l r m s pos ∧
      (l.position user asset).shown r p.clock .supply = .ok balance ∧ 0 < receipt.value ∧
      receipt.value = if amount = maxAmount then balance else amount := by
  obtain ⟨taken, l₁, emptied, hadmitted, hbook, hemptied, rfl, _, rfl⟩ := withdrawing_completed h
  obtain ⟨r, balance, hr, hbalance, hpos, hle, htaken⟩ := admitWithdrawal_ok hadmitted
  obtain ⟨r', s, x, hvisit, hx⟩ := bookWithdrawal_visit hl hbook
  obtain rfl : r' = r := by simpa [hvisit.before] using hr
  have hheld : l.Holds p.clock user asset balance := ⟨r', hr, hbalance⟩
  rw [hvisit.held_before hl hheld] at hle
  refine ⟨r', s, _, balance, ⟨hvisit.switchIf emptied false, .supply (.take hle hx) ?_⟩,
    supplyOf_eq.symm.trans hbalance, hpos, htaken⟩
  intro _ hnone
  rw [hvisit.position, decide_eq_true hnone, Bool.and_true] at hemptied
  rw [hemptied]
  dsimp only
  cases (l.position user asset).usedAsCollateral <;> rfl

theorem borrowing_movement {receipt : Receipt Unit}
    (h : p.borrowing asset amount mode user l = .ok receipt m) :
    ∃ r s pos, Movement mode.holding p.clock user asset amount l r m s pos := by
  obtain ⟨_, rate, hbook, _⟩ := borrowing_completed h
  have hopened : Turn p.clock (fun _ => True) l (l.openPosition user asset) := .openPosition trivial _
  have hposition : (l.openPosition user asset).position user asset = l.position user asset :=
    position_setPosition _ _ _ _
  obtain ⟨r, s, pos, hvisit, hmoves⟩ := bookLoan_movement (hopened.timely hl) hbook
  rw [hposition] at hmoves
  exact ⟨r, s, pos, visit_of_opened hvisit, hmoves⟩

theorem repaying_movement {receipt : Receipt Int}
    (h : p.repaying asset amount mode user l = .ok receipt m) :
    ∃ r s pos debt, Movement mode.holding p.clock user asset (-receipt.value) l r m s pos ∧
      (l.position user asset).shown r p.clock mode.holding = .ok debt ∧ 0 < receipt.value ∧
      receipt.value = min amount debt := by
  obtain ⟨paid, hadmitted, hbook, rfl⟩ := repaying_completed h
  obtain ⟨r, debt, hr, _, hdebt, hamount, hpaid, hsome⟩ := admitRepayment_ok hadmitted
  have hnonneg := debtOfMode_nonneg hdebt
  obtain ⟨s, pos, hmovement⟩ := bookRepayment_movement hl hr hdebt (by omega) hbook
  refine ⟨r, s, pos, debt, hmovement, ?_, ?_, hpaid⟩
  · cases mode <;> exact hdebt
  · dsimp only
    omega

end Work

/-- What an operation that is done has moved. One that asks for all takes all. -/
theorem transaction_movement (hl : Timely p.clock p.ledger) (hop : op.Moves held user asset)
    {work : LedgerWork (Receipt Outcome)} {receipt : Receipt Outcome}
    (htx : p.transaction? op = some work) (hw : work p.ledger = .ok receipt m) :
    ∃ r s pos, Movement held p.clock user asset
        (op.added (.ok receipt.value) - op.taken (.ok receipt.value)) p.ledger r m s pos ∧
      ∀ x, (p.ledger.position user asset).shown r p.clock held = .ok x → op.AsksAll x →
        receipt.value = .amount x ∧ 0 < x := by
  cases transaction_completes htx hw with
  | @deposit _ _ amount _ h =>
    obtain ⟨rfl, rfl, rfl⟩ := hop
    obtain ⟨r, s, pos, hmovement⟩ := depositing_movement hl h
    refine ⟨r, s, pos, ?_, fun _ _ hall => nomatch hall⟩
    show Movement _ _ _ _ (amount - 0) _ _ _ _ _
    rwa [Int.sub_zero]
  | @withdraw _ _ amount _ receipt h =>
    obtain ⟨rfl, rfl, rfl⟩ := hop
    obtain ⟨r, s, pos, balance, hmovement, hbalance, hpos, htaken⟩ := withdrawing_movement hl h
    refine ⟨r, s, pos, ?_, ?_⟩
    · show Movement _ _ _ _ (0 - receipt.value) _ _ _ _ _
      rwa [Int.zero_sub]
    · intro x hx hall
      obtain rfl := Except.ok.inj (hbalance.symm.trans hx)
      have hvalue : receipt.value = balance := by
        cases hall with
        | withdraw hall =>
          rcases hall with hall | hall
          · rw [htaken, if_pos hall]
          · rw [htaken, hall, ite_self]
      exact ⟨congrArg Outcome.amount hvalue, hvalue ▸ hpos⟩
  | @borrow _ _ amount mode _ h =>
    obtain ⟨⟨mode', hmode, rfl⟩, rfl, rfl⟩ := hop
    obtain rfl := RateMode.number_injective hmode
    obtain ⟨r, s, pos, hmovement⟩ := borrowing_movement hl h
    refine ⟨r, s, pos, ?_, fun _ _ hall => nomatch hall⟩
    show Movement _ _ _ _ (amount - 0) _ _ _ _ _
    rwa [Int.sub_zero]
  | @repay _ _ amount mode receipt h =>
    obtain ⟨⟨mode', hmode, rfl⟩, rfl, rfl⟩ := hop
    obtain rfl := RateMode.number_injective hmode
    obtain ⟨r, s, pos, debt, hmovement, hdebt, hpos, hpaid⟩ := repaying_movement hl h
    refine ⟨r, s, pos, ?_, ?_⟩
    · show Movement _ _ _ _ (0 - receipt.value) _ _ _ _ _
      rwa [Int.zero_sub]
    · intro x hx hall
      obtain rfl := Except.ok.inj (hdebt.symm.trans hx)
      have hvalue : receipt.value = debt := by
        cases hall with
        | repay hall => rw [hpaid, Int.min_eq_right hall]
      exact ⟨congrArg Outcome.amount hvalue, hvalue ▸ hpos⟩
  | setUsageAsCollateral | setUsingMargin | liquidate | liquidateMargin => exact hop.elim

end MoneyMarket.Pool
