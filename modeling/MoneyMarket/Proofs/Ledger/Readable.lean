import MoneyMarket.Proofs.Ledger.Loans
import MoneyMarket.Proofs.Ledger.Work

/-!
# Stable debts that can be read

A stable debt is read from its principal, rate and time, and only one that is not negative and of a
time that has come can be read. All that are written are of this kind, they stay so as time goes on,
and what is owed never becomes less by itself.
-/

namespace MoneyMarket

open MoneyMarket.FixedPoint MoneyMarket.Interest MoneyMarket.Reserve

/-! ## One loan -/

def StableLoan.Readable (now : Int) (x : StableLoan) : Prop := ∃ debt, x.debt now = .ok debt

variable {now time : Int} {x : StableLoan}

theorem StableLoan.readable_of_now (hprincipal : 0 ≤ x.principal)
    (hnow : x.principal ≠ 0 → x.since = now ∧ 0 ≤ x.rate) : x.Readable now :=
  ⟨_, debt_of_now hprincipal hnow⟩

theorem StableLoan.debt_later {debt : Int} (h : x.debt now = .ok debt) (hle : now ≤ time) :
    ∃ more, x.debt time = .ok more ∧ debt ≤ more := by
  unfold StableLoan.debt at h ⊢
  split at h
  · rw [if_pos ‹_›]
    exact ⟨debt, h, Int.le_refl _⟩
  · rw [if_neg ‹_›]
    simp only [bind_ok_iff, compoundedFactor_ok_iff, rayMul_ok_iff] at h
    obtain ⟨_, ⟨hrate, hsince, rfl⟩, hprincipal, hfactor, rfl⟩ := h
    have hlater : x.since ≤ time := Int.le_trans hsince hle
    have hmono := compoundAfter_mono hrate (Int.le_refl _) (show 0 ≤ now - x.since by omega)
      (show now - x.since ≤ time - x.since by omega)
    rw [compoundedFactor_ok hrate hlater, ok_bind]
    refine ⟨_, mulChecked_ok _ _ hprincipal (Int.le_trans hfactor hmono), ?_⟩
    exact rayRound_mono hprincipal hmono

theorem StableLoan.Readable.later (h : x.Readable now) (hle : now ≤ time) : x.Readable time := by
  obtain ⟨_, h⟩ := h
  obtain ⟨more, hmore, _⟩ := debt_later h hle
  exact ⟨more, hmore⟩

theorem StableLoan.readable_empty (now : Int) : ({} : StableLoan).Readable now := ⟨0, rfl⟩

/-! ## What is written -/

namespace Reserve

variable {r s : Reserve} {p : Position} {amount rate : Int} {rp : WithPosition}

theorem stableAfterAdding_rate {total : Int} {x : Int × Int}
    (h : r.stableAfterAdding total amount rate = .ok x) : 0 ≤ x.2 := by
  rcases stableAfterAdding_ok_iff.1 h with ⟨-, rfl⟩ | ⟨haverage, htotal, hrate, ha, hnext, rfl⟩
  · exact Int.le_refl 0
  · exact (blendedRate_ok (blendedRate_ok_iff.2 ⟨haverage, htotal, hrate, ha, hnext, rfl⟩)).2

theorem stableAfterRemoving_rate {total : Int} {x : Int × Int}
    (h : r.stableAfterRemoving total amount rate = .ok x) : 0 ≤ x.2 := by
  rcases stableAfterRemoving_ok_iff.1 h with ⟨-, rfl⟩ | ⟨hpart, -, -, -, rfl⟩
  · exact Int.le_refl 0
  · unfold remaining
    split
    · exact Int.le_refl 0
    · have hleft := Int.mul_nonneg (show 0 ≤ total - amount by omega) (show 0 ≤ raysPerWad by decide)
      exact divRound_nonneg (Int.le_of_lt ray_pos) (by omega) hleft

theorem updateStableRate_average {change : Int} (h : r.updateStableRate change rate now = .ok s) :
    0 ≤ s.averageStableRate := by
  obtain ⟨total, x, _, _, hx, rfl⟩ := updateStableRate_ok_iff.1 h
  split at hx
  · exact stableAfterAdding_rate hx
  · exact stableAfterRemoving_rate hx

theorem updateStableRate_readable {change : Int} (h : r.updateStableRate change rate now = .ok s) :
    s.loan.Readable now := by
  have hprincipal := updateStableRate_principal h
  have haverage := updateStableRate_average h
  obtain ⟨_, x, _, _, _, rfl⟩ := updateStableRate_ok_iff.1 h
  exact StableLoan.readable_of_now hprincipal fun _ => ⟨rfl, haverage⟩

theorem mintStableDebt_readable
    (h : Stage.perform (stableDebtStages amount rate now) (r, p) = .ok rp) :
    rp.1.loan.Readable now ∧ rp.2.loan.Readable now := by
  obtain ⟨_, x, y, _, hrp, _, hy, _⟩ := mintStableDebt_left h
  unfold stableDebtStages at h
  obtain ⟨_, _, h⟩ := Stage.perform_cons_ok.1 h
  obtain ⟨_, haverage, h⟩ := Stage.perform_cons_ok.1 h
  cases h
  obtain ⟨s, hs, hrp'⟩ := averageInStable_ok haverage
  constructor
  · rw [hrp']
    exact updateStableRate_readable hs
  · rw [hrp]
    exact ⟨_, hy⟩

theorem burnStableDebt_readable (h : r.burnStableDebt p amount now = .ok rp) :
    rp.1.loan.Readable now ∧ rp.2.loan.Readable now := by
  obtain ⟨_, s, z, _, hs, hrp, _, _⟩ := burnStableDebt_ok h
  obtain ⟨_, x, y, _, hrp', _, hy, _⟩ := burnStableDebt_left h
  constructor
  · rw [hrp]
    exact updateStableRate_readable hs
  · rw [hrp']
    exact ⟨_, hy⟩

end Reserve

/-! ## Books -/

structure StableBook.Readable (now : Int) (b : StableBook) : Prop where
  lent : ∀ a, (b.lent a).Readable now
  loanOf : ∀ a u, (b.loanOf a u).Readable now

theorem StableBook.Readable.later {b : StableBook} (h : b.Readable now) (hle : now ≤ time) :
    b.Readable time :=
  ⟨fun a => (h.lent a).later hle, fun a u => (h.loanOf a u).later hle⟩

namespace Ledger

variable {l m : Ledger} {user asset : Name}

theorem readable_empty (now : Int) : ({} : Ledger).stableBook.Readable now :=
  ⟨fun _ => StableLoan.readable_empty now, fun _ _ => StableLoan.readable_empty now⟩

theorem Readable.setWithPosition {rp : WithPosition} (h : l.stableBook.Readable now)
    (hrp : rp.1.loan.Readable now ∧ rp.2.loan.Readable now) :
    ((l.openPosition user asset).setWithPosition user asset rp).stableBook.Readable now := by
  rw [stableBook_setWithPosition]
  refine ⟨fun a => ?_, fun a u => ?_⟩
  · show StableLoan.Readable now (if _ then _ else _)
    split
    · exact hrp.1
    · exact h.lent a
  · show StableLoan.Readable now (if _ then _ else _)
    split
    · exact hrp.2
    · exact h.loanOf a u

theorem book_readable {named : Key → Prop} {b : Booking} (hb : b.Allowed now named True)
    (hdone : l.book asset b = ⟨m, none⟩) (h : l.stableBook.Readable now) :
    m.stableBook.Readable now := by
  by_cases hstable : b.isStable
  · cases b with
    | updateStableRate => exact hb.elim
    | mintStableDebt user amount rate since =>
      obtain ⟨_, _, rfl⟩ := hb
      obtain ⟨r, rp, _, hmint, rfl⟩ := bookPosition_done hdone
      exact Readable.setWithPosition h (mintStableDebt_readable hmint)
    | burnStableDebt user amount since =>
      obtain ⟨_, _, rfl⟩ := hb
      obtain ⟨r, rp, _, hstages, rfl⟩ := bookPosition_done hdone
      obtain ⟨_, hburn, hrest⟩ := Stage.perform_cons_ok.1 hstages
      cases hrest
      exact Readable.setWithPosition h (burnStableDebt_readable hburn)
    | _ => cases hstable
  · have hsteps : Steps False l (l.book asset b).state := book_steps b hstable
    rw [hdone] at hsteps
    rwa [hsteps.stableBook]

end Ledger

open MoneyMarket.Ledger in
theorem LedgerWork.permits_readable (now : Int) :
    Permits (Leads fun l m => l.stableBook.Readable now → m.stableBook.Readable now) now
      (fun _ => True) True := by
  apply permits_leads
  · exact fun _ h => h
  · exact fun h h' hl => h' (h hl)
  · intro l user asset _ hl
    rwa [stableBook_openPosition]
  · intro l user asset enabled _ hl
    rwa [stableBook_modifyPosition rfl]
  · exact fun _ _ _ _ hl => hl
  · exact fun _ _ _ _ hb hdone hl => book_readable hb hdone hl

end MoneyMarket
