import MoneyMarket.Proofs.Ledger.Loans

/-!
# Which stable debt is remembered

A reserve of which stable debt is owed should count some. A loan keeps it so, and so does a
repayment, unless the reserve takes it for the last one though it is not. While the clock stands
the reserves then count exactly what is owed.
-/

namespace MoneyMarket

/-! ## In books -/

namespace StableBook

variable {now : Int} {asset user : Key} {amount paid : Int} {b c : StableBook}

/-- The reserve takes the repayment for the last one, but the payer or another user still owes. -/
structure Forgets (now : Int) (asset user : Key) (paid : Int) (b : StableBook) : Prop where
  taken : ∃ total, (b.lent asset).debt now = .ok total ∧ b.TakenForLast asset user total paid
  owing : (∃ debt, (b.loanOf asset user).debt now = .ok debt ∧ paid < debt) ∨
    ∃ other, other ≠ user ∧ 0 < (b.loanOf asset other).principal

/-- After a repayment that is taken for the last one and does not forget, nobody owes. -/
theorem Repaid.none_owed (h : Repaid now asset user paid b c) {total : Int}
    (htotal : (b.lent asset).debt now = .ok total) (htaken : b.TakenForLast asset user total paid)
    (hkept : ¬ b.Forgets now asset user paid) (u : Key) : (c.loanOf asset u).principal ≤ 0 := by
  have hnone := not_or.1 fun howing => hkept ⟨⟨total, htotal, htaken⟩, howing⟩
  by_cases hu : u = user
  · subst hu
    obtain ⟨current, hcurrent, _, hprincipal, _⟩ := h.owed
    have hall : ¬ paid < current := fun hlt => hnone.1 ⟨current, hcurrent, hlt⟩
    omega
  · rw [h.others.loanOf asset u fun hau => hu hau.2]
    exact Int.not_lt.1 fun howes => hnone.2 ⟨u, hu, howes⟩

/-- All stable debts are of the time `now`, and none is negative. -/
structure Current (now : Int) (b : StableBook) : Prop where
  lent : ∀ a, (b.lent a).principal = 0 ∨ (b.lent a).since = now
  loanOf : ∀ a u, (b.loanOf a u).principal = 0 ∨ (b.loanOf a u).since = now
  nonneg : ∀ a u, 0 ≤ (b.loanOf a u).principal

theorem SameBut.current (h : SameBut asset user b c) (hb : b.Current now)
    (hlent : (c.lent asset).principal = 0 ∨ (c.lent asset).since = now)
    (hloan : (c.loanOf asset user).principal = 0 ∨ (c.loanOf asset user).since = now)
    (hnonneg : 0 ≤ (c.loanOf asset user).principal) : c.Current now := by
  refine ⟨fun a => ?_, fun a u => ?_, fun a u => ?_⟩
  · by_cases ha : a = asset
    · rwa [ha]
    · rw [h.lent a ha]
      exact hb.lent a
  · by_cases hau : a = asset ∧ u = user
    · rwa [hau.1, hau.2]
    · rw [h.loanOf a u hau]
      exact hb.loanOf a u
  · by_cases hau : a = asset ∧ u = user
    · rwa [hau.1, hau.2]
    · rw [h.loanOf a u hau]
      exact hb.nonneg a u

theorem Borrowed.current (h : Borrowed now asset user amount b c) (hb : b.Current now) :
    c.Current now := by
  obtain ⟨_, _, _, hlent⟩ := h.counted
  obtain ⟨current, hcurrent, hprincipal, hloan⟩ := h.owed
  have hnonneg := StableLoan.debt_nonneg hcurrent
  have hpos := h.amount_pos
  exact h.others.current hb (.inr hlent) (.inr hloan) (by omega)

theorem Repaid.current (h : Repaid now asset user paid b c) (hb : b.Current now) :
    c.Current now := by
  obtain ⟨_, _, hlent, _⟩ := h.counted
  obtain ⟨current, _, hle, hprincipal, hloan⟩ := h.owed
  exact h.others.current hb (.inr hlent) hloan (by omega)

end StableBook

/-! ## In ledgers -/

namespace Ledger

open MoneyMarket.StableBook

variable {l m : Ledger} {now : Int} {asset user : Key} {amount paid : Int}

/-- What reserves count as stable principal is what their positions owe. -/
def StableTallied (l : Ledger) : Prop := ∀ asset,
  l.owed Reserve.principalStableDebt asset = l.total Position.principalStableDebt asset

theorem owed_principal (asset : Key) :
    l.owed Reserve.principalStableDebt asset = (l.stableBook.lent asset).principal := by
  show _ = (((l.reserve? asset).map Reserve.loan).getD {}).principal
  unfold owed
  cases l.reserve? asset <;> rfl

theorem StableTallied.sameBut (hl : l.StableTallied) (hext : Extends l m)
    (h : SameBut asset user l.stableBook m.stableBook)
    (hsame : (m.stableBook.lent asset).principal - (l.stableBook.lent asset).principal =
      (m.stableBook.loanOf asset user).principal - (l.stableBook.loanOf asset user).principal) :
    m.StableTallied := by
  intro b
  rw [total_principal hext h, ← hl b, owed_principal, owed_principal]
  split
  · rename_i hb
    rw [hb]
    omega
  · rename_i hb
    rw [h.lent b hb, Int.add_zero]

theorem StableTallied.kept (hl : l.StableTallied) (hext : Extends l m)
    (h : m.stableBook = l.stableBook) : m.StableTallied := by
  intro b
  have hsame : SameBut b .null l.stableBook m.stableBook := by
    rw [h]
    exact ⟨fun _ _ => rfl, fun _ _ _ => rfl⟩
  refine hl.sameBut hext hsame ?_ b
  rw [h, Int.sub_self, Int.sub_self]

theorem StableTallied.borrowed (hl : l.StableTallied) (hext : Extends l m)
    (hcur : l.stableBook.Current now)
    (h : Borrowed now asset user amount l.stableBook m.stableBook) : m.StableTallied := by
  obtain ⟨total, htotal, hlent, _⟩ := h.counted
  obtain ⟨current, hcurrent, hloan, _⟩ := h.owed
  have hcounted := StableLoan.debt_eq_principal htotal (hcur.lent asset)
  have howed := StableLoan.debt_eq_principal hcurrent (hcur.loanOf asset user)
  exact hl.sameBut hext h.others (by omega)

theorem StableTallied.repaid (hl : l.StableTallied) (hext : Extends l m)
    (hcur : l.stableBook.Current now) (h : Repaid now asset user paid l.stableBook m.stableBook)
    (hkept : ¬ l.stableBook.Forgets now asset user paid) : m.StableTallied := by
  obtain ⟨total, htotal, _, htaken, hleft⟩ := h.counted
  obtain ⟨current, hcurrent, _, hloan, _⟩ := h.owed
  have hcounted := StableLoan.debt_eq_principal htotal (hcur.lent asset)
  have howed := StableLoan.debt_eq_principal hcurrent (hcur.loanOf asset user)
  by_cases hlast : l.stableBook.TakenForLast asset user total paid
  · intro b
    by_cases hb : b = asset
    · subst hb
      have hnone : ∀ x ∈ m.positions.keys.map (m.amount Position.principalStableDebt b),
          x = 0 := by
        intro x hx
        obtain ⟨u, _, rfl⟩ := List.mem_map.1 hx
        rw [amount_principal]
        have hle := h.none_owed htotal hlast hkept u
        have hnonneg := (h.current hcur).nonneg b u
        omega
      rw [owed_principal, htaken hlast]
      exact (List.sum_eq_zero hnone).symm
    · rw [owed_principal, h.others.lent b hb, ← owed_principal, hl b,
        total_principal hext h.others, if_neg hb, Int.add_zero]
  · have hsome := hleft hlast
    exact hl.sameBut hext h.others (by omega)

end Ledger

end MoneyMarket
