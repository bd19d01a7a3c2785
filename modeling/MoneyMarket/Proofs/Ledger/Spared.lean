import MoneyMarket.Proofs.Ledger.Locality

/-!
# Assets that are spared

A booking writes to the reserve that it names and to positions in it. A piece of work on one asset
therefore spares all others: their reserves and all positions in them are as they were. A reserve
rests where at most its flags and its strategy are changed.
-/

namespace MoneyMarket

namespace Ledger

variable {l m n : Ledger} {a b : Key} {asset : Name} {now : Int}

structure Spares (a : Key) (l m : Ledger) : Prop where
  reserve? : m.reserve? a = l.reserve? a
  position? : ∀ u, m.position? u a = l.position? u a

theorem Spares.refl (a : Key) (l : Ledger) : Spares a l l := ⟨rfl, fun _ => rfl⟩

theorem Spares.trans (h : Spares a l m) (h' : Spares a m n) : Spares a l n where
  reserve? := h'.reserve?.trans h.reserve?
  position? u := (h'.position? u).trans (h.position? u)

theorem Confined.spares {users : Key → Prop} (h : Confined users b l m) (hab : a ≠ b) :
    Spares a l m where
  reserve? := h.reserves a hab
  position? u := h.positions u a fun hu => hab hu.2

abbrev KeptTo (a : Key) : Ledger → Ledger → Prop := Confined (fun _ => True) a

theorem KeptTo.write (h : KeptTo a l m) (u : Key) (p : Position) :
    KeptTo a l (m.setPosition u a p) := h.setPosition trivial p

theorem keptTo_write (u : Key) (p : Position) : KeptTo a l (l.setPosition u a p) :=
  KeptTo.write (.refl l) u p

theorem book_keptTo {b : Booking} (h : l.book asset b = ⟨m, none⟩) : KeptTo asset l m := by
  have reserve {stages : Reserve → List (Stage Reserve)}
      (h : l.bookReserve asset stages = ⟨m, none⟩) : KeptTo asset l m := by
    obtain ⟨_, s, _, _, rfl⟩ := bookReserve_done h
    exact (Confined.refl l).setReserve s
  have position {user : Name} {stages : List (Stage Reserve.WithPosition)}
      (h : l.bookPosition user asset stages = ⟨m, none⟩) : KeptTo asset l m := by
    obtain ⟨_, rp, _, _, rfl⟩ := bookPosition_done h
    exact KeptTo.write ((keptTo_write user _).setReserve rp.1) user rp.2
  cases b with
  | accrue | updateStableRate | money => exact reserve h
  | mintSupply | burnSupply | mintVariableDebt | burnVariableDebt | mintStableDebt
  | burnStableDebt => exact position h
  | transferSupply source target =>
    obtain ⟨_, _, _, _, rfl⟩ := bookTransfer_done h
    have hopen : KeptTo asset l ((l.openPosition source asset).openPosition target asset) :=
      KeptTo.write (keptTo_write source _) target _
    exact KeptTo.write (hopen.write source _) target _

/-! ## Flags and strategies -/

section Rests

open MoneyMarket.Reserve

variable {governed later : Prop}

/-- Of the records of one asset only the flags of the reserve have changed, and the parameters of
its strategy where `governed` says so. -/
structure Rests (governed : Prop) (a : Key) (l m : Ledger) : Prop where
  reserve : ∀ r, l.reserve? a = some r → ∃ s, m.reserve? a = some s ∧ Edited r s ∧
    (¬ governed → s.strategy = r.strategy)
  positions : ∀ user, m.position? user a = l.position? user a

theorem Spares.rests (h : Spares a l m) : Rests governed a l m :=
  ⟨fun r hr => ⟨r, h.reserve?.trans hr, rfl, fun _ => rfl⟩, h.position?⟩

theorem Rests.mono (h : Rests governed a l m) (hle : governed → later) : Rests later a l m := by
  refine ⟨fun r hr => ?_, h.positions⟩
  obtain ⟨s, hs, hrs, hstrategy⟩ := h.reserve r hr
  exact ⟨s, hs, hrs, fun hnot => hstrategy fun hgoverned => hnot (hle hgoverned)⟩

theorem Rests.trans (h : Rests governed a l m) (h' : Rests later a m n) :
    Rests (governed ∨ later) a l n := by
  refine ⟨?_, fun user => (h'.positions user).trans (h.positions user)⟩
  intro r hr
  obtain ⟨s, hs, hrs, hstrategy⟩ := h.reserve r hr
  obtain ⟨t, ht, hst, hstrategy'⟩ := h'.reserve s hs
  refine ⟨t, ht, ?_, ?_⟩
  · rw [Edited] at hrs hst ⊢
    rw [hst, hrs]
  · intro hnot
    rw [not_or] at hnot
    exact (hstrategy' hnot.2).trans (hstrategy hnot.1)

theorem rests_setReserve {r s : Reserve} (hr : l.reserve? b = some r) (h : Edited r s)
    (hstrategy : a = b → ¬ governed → s.strategy = r.strategy) :
    Rests governed a l (l.setReserve b s) := by
  refine ⟨?_, fun _ => rfl⟩
  intro t ht
  by_cases hab : a = b
  · subst hab
    rw [hr] at ht
    cases ht
    exact ⟨s, by simp, h, hstrategy rfl⟩
  · exact ⟨t, by simp [hab, ht], rfl, fun _ => rfl⟩

end Rests

end Ledger

/-! ## Pieces of work -/

namespace LedgerWork

open MoneyMarket.Ledger MoneyMarket.Pool

variable {l m : Ledger} {asset user : Name} {now amount : Int} {u : Unit}

theorem bookDeposit_keptTo {first : Bool} (h : bookDeposit asset amount user now l = .ok first m) :
    KeptTo asset l m := by
  obtain ⟨l₁, l₂, l₃, _, haccrue, hmoney, hmint, hagain⟩ := bookDeposit_ok h
  have hminted : KeptTo asset l l₃ :=
    (book_keptTo haccrue).trans ((book_keptTo hmoney).trans (book_keptTo hmint))
  cases first with
  | false => exact hminted.trans (book_keptTo hagain)
  | true => exact (hminted.write user _).trans (book_keptTo hagain)

theorem Booked.keptTo {work : LedgerWork Unit} {change : Int}
    (h : Booked asset now work change l m)
    (hwork : ∀ l m, work l = .ok () m → KeptTo asset l m) : KeptTo asset l m := by
  obtain ⟨l₁, l₂, l₃, haccrue, hdone, hmoney, hagain⟩ := h
  have hworked : KeptTo asset l l₂ := (book_keptTo haccrue).trans (hwork _ _ hdone)
  exact hworked.trans ((book_keptTo hmoney).trans (book_keptTo hagain))

theorem work_keptTo (b : Booking) (l m : Ledger) (h : book asset b l = .ok () m) :
    KeptTo asset l m := book_keptTo (book_done h)

theorem bookWithdrawal_keptTo (h : bookWithdrawal asset amount user now l = .ok u m) :
    KeptTo asset l m := (bookWithdrawal_booked h).keptTo (work_keptTo _)

theorem bookLoan_keptTo {mode : RateMode} {rate : Int}
    (h : bookLoan asset amount mode user now l = .ok rate m) : KeptTo asset l m :=
  (bookLoan_booked h).keptTo (work_keptTo _)

theorem bookRepayment_keptTo {mode : RateMode}
    (h : bookRepayment asset amount mode user now l = .ok u m) : KeptTo asset l m :=
  (bookRepayment_booked h).keptTo (work_keptTo _)

theorem repayDebt_keptTo (h : repayDebt user asset amount now l = .ok u m) : KeptTo asset l m := by
  obtain ⟨stable, k, _, hburn, hrest⟩ := repayDebt_completed h
  have hopened : KeptTo asset l (l.openPosition user asset) := keptTo_write user _
  have hk : KeptTo asset l k := by
    split at hburn
    · exact hopened.trans (book_keptTo hburn)
    · exact hburn ▸ hopened
  split at hrest
  · exact hk.trans (book_keptTo hrest)
  · exact hrest ▸ hk

theorem settleDebt_keptTo (h : settleDebt user asset amount now l = .ok u m) : KeptTo asset l m :=
  (settleDebt_booked h).keptTo fun _ _ => repayDebt_keptTo

theorem moveCollateral_keptTo {c : LiquidationCall} (h : moveCollateral c amount now l = .ok u m) :
    KeptTo c.collateralAsset l m := by
  obtain ⟨l₁, l₂, l₃, haccrue, htake, hagain, hretire⟩ := moveCollateral_done h
  have htaken : KeptTo c.collateralAsset l₁ l₂ := by
    split at htake
    · obtain ⟨k, hburn, hmoney⟩ := payOutCollateral_completed htake
      exact (book_keptTo hburn).trans (book_keptTo hmoney)
    · obtain ⟨name, k, _, htransfer, rfl⟩ := handOverCollateral_completed htake
      have hk : KeptTo c.collateralAsset l₁ k := book_keptTo htransfer
      split
      · exact hk.write _ _
      · exact hk
  have hbooked : KeptTo c.collateralAsset l l₃ :=
    ((book_keptTo haccrue).trans htaken).trans (book_keptTo hagain)
  rw [retireEmptyCollateral_completed hretire]
  split
  · exact hbooked.write _ _
  · exact hbooked

end LedgerWork

end MoneyMarket
