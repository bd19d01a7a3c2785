import MoneyMarket.Proofs.Liquidation.Planning

/-!
# Carrying out a liquidation

What was planned on a ledger in order is done, and leaves the ledger in order. Only an accrual may
still be refused, and a liquidator who is to be given supply has to have a name.
-/

namespace MoneyMarket

open MoneyMarket.LedgerWork

namespace Ledger

variable {faults : Fault → Prop} {now x : Int} {l m : Ledger} {r : Reserve} {asset borrower : Name}
  {amount seized : Int}
variable (hrefused : ∀ cause, faults (.refused cause))

/-! ## The debt -/

theorem Dealing.repayDebt_ends (h : Dealing now asset x l m) (borrower : Name) (amount : Int) :
    Ends faults (fun _ n => Dealing now asset x l n) (repayDebt borrower asset amount now) m := by
  have hopen := h.openPosition borrower
  obtain ⟨debt, hdebt, _⟩ := (hopen.orderly.position borrower asset).stableDebt_total
  have hvariable {n : Ledger} (hn : Dealing now asset x l n) :
      Ends faults (fun _ n => Dealing now asset x l n) (do
        if 0 < amount - min amount debt then
          LedgerWork.book asset (.burnVariableDebt borrower (amount - min amount debt))) n := by
    split
    · exact hn.book_ends (Int.le_of_lt ‹_›)
    · exact hn
  unfold repayDebt
  apply Ends.opening
  apply Ends.position
  apply Ends.lifted hdebt
  dsimp only
  split
  · have hburn : (Booking.burnStableDebt borrower (min amount debt) now).Proper now := rfl
    exact (hopen.book_ends hburn).andThen fun _ _ hn => hvariable hn
  · exact hvariable hopen

include hrefused in
theorem Orderly.settleDebt_ends (h : l.Orderly now) (hr : l.reserve? asset = some r)
    (borrower : Name) (hamount : 0 ≤ amount) :
    Ends faults (fun _ m => Dealing now asset (r.availableLiquidity + amount) l m)
      (settleDebt borrower asset amount now) l := by
  have hmoney : 0 ≤ r.availableLiquidity + amount :=
    Int.add_nonneg (h.reserves _ r hr).liquidity hamount
  exact h.booked_ends hrefused hr hmoney fun m hm => hm.repayDebt_ends borrower amount

/-! ## The collateral -/

theorem Dealing.handOverCollateral_ends (h : Dealing now asset x l m) (borrower : Name)
    {liquidator : Json} (hnamed : ∀ f, liquidator.named = .error f → faults f)
    (hseized : 0 ≤ seized) :
    Ends faults (fun _ n => Dealing now asset x l n)
      (handOverCollateral borrower asset liquidator seized) m := by
  unfold handOverCollateral
  apply Ends.lift (Answers.of_faults hnamed)
  intro name _
  apply Ends.position
  apply (h.transfer_ends borrower name hseized).andThen
  intro _ n hn
  split
  · exact hn.switch name true
  · exact hn

theorem Dealing.retireEmptyCollateral_ends (h : Dealing now asset x l m) (user : Name) :
    Ends faults (fun _ n => Dealing now asset x l n) (retireEmptyCollateral user asset) m := by
  unfold retireEmptyCollateral
  apply Ends.position
  split
  · exact h.switch user false
  · exact h

include hrefused in
theorem Orderly.moveCollateral_ends (h : l.Orderly now) {c : LiquidationCall}
    (hnamed : ∀ f, c.liquidator.named = .error f → faults f)
    (hr : l.reserve? c.collateralAsset = some r) (hseized : 0 ≤ seized)
    (hpaid : c.receiveUnderlying = true → seized ≤ r.availableLiquidity) :
    Ends faults (fun _ m => m.Orderly now) (moveCollateral c seized now) l := by
  have hrest {x : Int} {m : Ledger} (hm : Dealing now c.collateralAsset x l m) :
      Ends faults (fun _ n => n.Orderly now) (do
        LedgerWork.book c.collateralAsset (.accrue now)
        retireEmptyCollateral c.borrower c.collateralAsset) m := by
    apply (hm.accrue_ends hrefused).andThen
    intro _ n hn
    exact (hn.retireEmptyCollateral_ends c.borrower).mono fun _ _ hk => hk.orderly
  unfold moveCollateral
  apply (h.accrue_ends hrefused hr).andThen
  intro _ m hm
  split
  · have hmoney : 0 ≤ r.availableLiquidity + -seized := by
      have hle := hpaid ‹_›
      omega
    have hburn : (Booking.burnSupply c.borrower seized).Proper now := hseized
    have hpayout : Ends faults
        (fun _ n => Dealing now c.collateralAsset (r.availableLiquidity + -seized) l n)
        (payOutCollateral c.borrower c.collateralAsset seized) m :=
      (hm.book_ends hburn).andThen fun _ _ hn => hn.money_ends hmoney
    exact hpayout.andThen fun _ _ hn => hrest hn
  · exact (hm.handOverCollateral_ends c.borrower hnamed hseized).andThen fun _ _ hn => hrest hn

/-! ## Both -/

variable {s : Surroundings} {params : LiquidationParams}

theorem Dealing.liquidity_le (h : Dealing now asset (r.availableLiquidity + amount) l m)
    (hr : l.reserve? asset = some r) (hamount : 0 ≤ amount) {a : Key} {s : Reserve}
    (hs : l.reserve? a = some s) :
    ∃ t, m.reserve? a = some t ∧ s.availableLiquidity ≤ t.availableLiquidity := by
  by_cases ha : a = asset.key
  · subst ha
    obtain ⟨t, ht, hcurrent⟩ := h.here
    rw [hr, Option.some.injEq] at hs
    subst hs
    exact ⟨t, ht, by rw [hcurrent.liquidity]; omega⟩
  · exact ⟨s, (h.elsewhere a ha).trans hs, Int.le_refl _⟩

section Whole

variable (h : l.Orderly now) (hmargin : s.margin.NonNegative) (hparams : params.NonNegative)
include hrefused h hmargin hparams

theorem Orderly.liquidate_ends {c : LiquidationCall}
    (hnamed : ∀ f, c.liquidator.named = .error f → faults f) :
    Ends faults (fun _ m => m.Orderly now) (LedgerWork.liquidate s params c now) l := by
  unfold LedgerWork.liquidate
  apply Ends.check (h.planStandardLiquidation_answers hrefused hmargin hparams c)
  rintro result ⟨⟨debt, repaid, hdebt, hrepaid, hrepaid'⟩,
    ⟨collateral, seized, hcollateral, hseized, hseized', hpaid⟩⟩
  rw [hrepaid, hseized]
  apply Ends.lifted rfl
  apply Ends.lifted rfl
  apply (h.settleDebt_ends hrefused hdebt c.borrower hrepaid').andThen
  intro _ m hm
  -- what was seized was measured before the debt was paid, which can only have added money
  obtain ⟨t, ht, hle⟩ := hm.liquidity_le hdebt hrepaid' hcollateral
  apply (hm.orderly.moveCollateral_ends hrefused hnamed ht hseized' fun hunderlying =>
    Int.le_trans (hpaid hunderlying) hle).andThen
  intro _ n hn
  exact hn

theorem Orderly.liquidateMargin_ends (m : MarginLiquidation) :
    Ends faults (fun _ n => n.Orderly now) (LedgerWork.liquidateMargin s params m now) l := by
  unfold LedgerWork.liquidateMargin
  apply Ends.check (h.planMarginLiquidation_answers hrefused hmargin hparams m)
  rintro result ⟨debt, repaid, hdebt, hrepaid, hrepaid'⟩
  rw [hrepaid]
  apply Ends.lifted rfl
  apply (h.settleDebt_ends hrefused hdebt m.borrower hrepaid').andThen
  intro _ n hn
  exact hn.orderly

end Whole

end Ledger

end MoneyMarket
