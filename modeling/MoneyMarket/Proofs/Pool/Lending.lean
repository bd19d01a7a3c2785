import MoneyMarket.Proofs.Ledger.Loans
import MoneyMarket.Proofs.Pool.Completed
import MoneyMarket.Proofs.Pool.Reach

/-!
# What operations do to stable loans

Borrowing at the stable rate makes a loan. Repaying stable debt and both liquidations, which take
stable debt first, make a repayment. Every other operation leaves stable debts as they are.
-/

namespace MoneyMarket

open MoneyMarket.Ledger

/-! ## Work that is done -/

namespace LedgerWork

variable {l m : Ledger}

theorem permits_sameBook (now : Int) :
    Permits (Leads fun l m => m.stableBook = l.stableBook) now (fun _ => True) False := by
  apply permits_leads
  · intro _
    rfl
  · intro _ _ _ h h'
    exact h'.trans h
  · intro _ user asset _
    exact stableBook_openPosition user.key asset
  · intro _ _ _ _ _
    exact stableBook_modifyPosition rfl
  · intro _ _ _ _
    rfl
  · intro l m asset b hb h
    have hsteps : Steps False l (l.book asset b).state := book_steps b hb.loans
    rw [h] at hsteps
    exact hsteps.stableBook

variable {user asset : Name} {amount now : Int} {u : Unit}

theorem Booked.stableBook {work : LedgerWork Unit} {change : Int}
    (h : Booked asset now work change l m) : ∃ l₁ l₂ : Ledger, l₁.stableBook = l.stableBook ∧
      work l₁ = .ok () l₂ ∧ m.stableBook = l₂.stableBook := by
  obtain ⟨l₁, l₂, l₃, haccrue, hwork, hmoney, hagain⟩ := h
  have hq := permits_sameBook now
  have hl₁ := hq.accrue asset _ () _ (book_eq_ok.2 haccrue)
  have hl₃ := hq.money asset change _ () _ (book_eq_ok.2 hmoney)
  have hm := hq.accrue asset _ () _ (book_eq_ok.2 hagain)
  exact ⟨l₁, l₂, hl₁, hwork, hm.trans hl₃⟩

end LedgerWork

/-! ## Operations that are done -/

namespace Pool

open MoneyMarket.LedgerWork

variable {p : Pool} {asset user : Name} {amount : Int} {l m : Ledger}

structure StableRepayment where
  asset : Key
  user : Key
  paid : Int

def stablePart? (p : Pool) (asset user : Key) (result : LiquidationResult) :
    Option StableRepayment :=
  match result.debtRepaid.booked, (p.ledger.stableBook.loanOf asset user).debt p.clock with
  | .ok repaid, .ok debt =>
    if 0 < min repaid debt then some ⟨asset, user, min repaid debt⟩ else none
  | _, _ => none

def repaidBy? (p : Pool) (op : Operation) (answer : Except Fault Outcome) :
    Option StableRepayment :=
  match op, answer with
  | .repay asset _ number user, .ok (.amount paid) =>
    if RateMode.ofNumber? number = some .stable then some ⟨asset, user, paid⟩ else none
  | .liquidate call, .ok (.liquidated result) =>
    p.stablePart? call.debtAsset call.borrower result
  | .liquidateMargin _ request, .ok (.liquidated result) =>
    p.stablePart? request.debtAsset request.borrower result
  | _, _ => none

/-- The stable debt that an operation repays, if any. -/
def stableRepayment? (p : Pool) (op : Operation) : Option StableRepayment :=
  p.repaidBy? op (p.perform op).2

/-- What an operation does to stable debts, by what it repays of them. -/
inductive Lends (now : Int) (b : StableBook) : Option StableRepayment → StableBook → Prop
  | nothing : Lends now b none b
  | borrowed {asset user : Key} {amount : Int} {c : StableBook}
      (h : StableBook.Borrowed now asset user amount b c) : Lends now b none c
  | repaid {x : StableRepayment} {c : StableBook}
      (h : StableBook.Repaid now x.asset x.user x.paid b c) : Lends now b (some x) c

theorem creditTreasury_stableBook (treasury : Key) (l : Ledger) :
    (creditTreasury treasury l).stableBook = l.stableBook :=
  Steps.stableBook (creditTreasury_steps treasury l)

theorem evolves_stableBook (h : Evolves False l m) : m.stableBook = l.stableBook := by
  cases h with
  | same => rfl
  | commit h treasury => rw [creditTreasury_stableBook, Steps.stableBook h]
  | edit hr h => exact stableBook_setReserve hr (by rw [h]; rfl)
  | @list asset r hnew h =>
    refine StableBook.ext (funext fun b => ?_) rfl
    rw [lent_setReserve]
    split
    · rename_i hb
      rw [hb, h.loan]
      show {} = ((l.reserve? asset).map Reserve.loan).getD {}
      rw [hnew]
      rfl
    · rfl

end Pool

end MoneyMarket
