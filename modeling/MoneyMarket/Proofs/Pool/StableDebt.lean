import MoneyMarket.Proofs.Ledger.Remembering
import MoneyMarket.Proofs.Pool.Lending
import MoneyMarket.Proofs.Rates

/-!
# Stable debt over a run

A run remembers stable debt as long as none of its operations makes a reserve forget some, and no
longer. Some runs do forget: debt at no rate weighs nothing in the average, so the repayment of all
other debt is taken for the last one.
-/

namespace MoneyMarket.Pool

open MoneyMarket.Ledger

variable {p : Pool} {op : Operation}

/-- The operation repays stable debt, and the reserve forgets some that is still owed. -/
def Forgets (p : Pool) (op : Operation) : Prop :=
  ∃ x ∈ p.stableRepayment? op, p.ledger.stableBook.Forgets p.clock x.asset x.user x.paid

def NeverForgets (p : Pool) : List Operation → Prop
  | [] => True
  | op :: rest => ¬ p.Forgets op ∧ NeverForgets (p.after op) rest

/-! ## Deciding -/

instance (b : StableBook) (asset user : Key) (total paid : Int) :
    Decidable (b.TakenForLast asset user total paid) := inferInstanceAs (Decidable (_ ∨ _))

theorem forgets_listed_iff {l : Ledger} {now : Int} {asset user : Key} {paid : Int} :
    l.stableBook.Forgets now asset user paid ↔
      (∃ total, (l.stableBook.lent asset).debt now = .ok total ∧
        l.stableBook.TakenForLast asset user total paid) ∧
      ((∃ debt, (l.stableBook.loanOf asset user).debt now = .ok debt ∧ paid < debt) ∨
        ∃ other ∈ l.positions.keys, other ≠ user ∧
          0 < l.amount Position.principalStableDebt asset other) := by
  constructor
  · rintro ⟨htaken, hown | ⟨other, hother, howes⟩⟩
    · exact ⟨htaken, .inl hown⟩
    · rw [← amount_principal] at howes
      refine ⟨htaken, .inr ⟨other, ?_, hother, howes⟩⟩
      by_contra hnone
      rw [amount, position?_eq_none hnone] at howes
      exact Int.lt_irrefl 0 howes
  · rintro ⟨htaken, hown | ⟨other, _, hother, howes⟩⟩
    · exact ⟨htaken, .inl hown⟩
    · rw [amount_principal] at howes
      exact ⟨htaken, .inr ⟨other, hother, howes⟩⟩

instance (l : Ledger) (now : Int) (asset user : Key) (paid : Int) :
    Decidable (l.stableBook.Forgets now asset user paid) :=
  decidable_of_iff _ forgets_listed_iff.symm

instance (p : Pool) (op : Operation) : Decidable (p.Forgets op) :=
  inferInstanceAs (Decidable (∃ x ∈ p.stableRepayment? op, _))

instance decidableNeverForgets (p : Pool) : (ops : List Operation) → Decidable (p.NeverForgets ops)
  | [] => .isTrue trivial
  | _ :: rest => @instDecidableAnd _ _ _ (decidableNeverForgets (p.after _) rest)

/-! ## One operation -/

section Lends

variable {now : Int} {b c : StableBook} {x : Option StableRepayment} {l m : Ledger}

theorem Lends.current (h : Lends now b x c) (hb : b.Current now) : c.Current now := by
  cases h with
  | nothing => exact hb
  | borrowed h => exact h.current hb
  | repaid h => exact h.current hb

end Lends

end MoneyMarket.Pool
