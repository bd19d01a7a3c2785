import MoneyMarket.Proofs.Liquidation.Execution
import MoneyMarket.Proofs.Pool.Completed

/-!
# Operations on a ledger in order

On a ledger in order whatever an operation was admitted for is done, and leaves the ledger in order.
It stops only at what is refused, and at what its counterparty does.
-/

namespace MoneyMarket

open MoneyMarket.FixedPoint MoneyMarket.Ledger MoneyMarket.LedgerWork

@[mk_iff]
structure PoolParams.NonNegative (params : PoolParams) : Prop where
  margin : params.margin.NonNegative
  liquidation : params.liquidation.NonNegative

instance (params : PoolParams) : Decidable params.NonNegative :=
  decidable_of_iff' _ (params.nonNegative_iff)

namespace Pool

variable {faults : Fault → Prop} {p : Pool} {l : Ledger} {r : Reserve} {pos : Position}
  {asset user : Name} {amount : Int} {α : Type} {Q : α → Prop}

/-! ## Admission -/

section Admission

variable (hrefused : ∀ cause, faults (.refused cause))
include hrefused

theorem admit_answers {next : Reserve → Except Fault α}
    (hn : ∀ r, l.reserve? asset = some r → Answers faults Q (next r)) :
    Answers faults Q (do
      let r ← l.reserve asset
      p.requireNotPaused
      r.requireActive
      r.requireNotPaused
      next r) := by
  apply (reserve_answers hrefused l asset).andThen
  intro r hr
  apply (Answers.require (c := p.paused = true) (hrefused _)).andThen
  intro _ _
  have hactive : Answers faults (fun _ => True) r.requireActive := by
    unfold Reserve.requireActive
    split
    · trivial
    · exact hrefused _
  apply hactive.andThen
  intro _ _
  apply (Answers.require (c := r.paused = true) (hrefused _)).andThen
  intro _ _
  exact hn r hr

theorem requirePositive_answers (kind : AmountKind) (amount : Int) :
    Answers faults (fun _ => 0 < amount) (requirePositive kind amount) :=
  (Answers.require (hrefused _)).mono fun _ h => Int.not_le.1 h

theorem admitDeposit_answers (p : Pool) (l : Ledger) (asset : Name) (amount : Int) :
    Answers faults (fun _ => (∃ r, l.reserve? asset = some r) ∧ 0 < amount)
      (p.admitDeposit l asset amount) := by
  apply admit_answers hrefused
  intro r hr
  apply (Answers.require (c := r.frozen = true) (hrefused _)).andThen
  intro _ _
  exact (requirePositive_answers hrefused .deposit amount).mono fun _ h => ⟨⟨r, hr⟩, h⟩

theorem admitWithdrawal_answers (h : l.Orderly p.clock) (asset : Name) (amount : Int)
    (user : Name) :
    Answers faults
      (fun taken => ∃ r, l.reserve? asset = some r ∧ 0 < taken ∧ taken ≤ r.availableLiquidity)
      (p.admitWithdrawal l asset amount user) := by
  apply admit_answers hrefused
  intro r hr
  obtain ⟨balance, hbalance, _⟩ := h.supplyOf_total hr user
  rw [hbalance, ok_bind]
  dsimp only
  apply (requirePositive_answers hrefused .withdrawal _).andThen
  intro _ hpositive
  apply Answers.guard (hrefused _)
  intro _
  apply Answers.guard (hrefused _)
  intro henough
  exact ⟨r, hr, hpositive, Int.not_lt.1 henough⟩

theorem admitRepayment_answers (h : l.Orderly p.clock) (asset : Name) (amount : Int)
    (mode : RateMode) (user : Name) :
    Answers faults (fun paid => (∃ r, l.reserve? asset = some r) ∧ 0 ≤ paid)
      (p.admitRepayment l asset amount mode user) := by
  apply admit_answers hrefused
  intro r hr
  apply (requirePositive_answers hrefused .repayment amount).andThen
  intro _ hpositive
  cases hpos : l.position? user asset with
  | none => exact hrefused _
  | some pos =>
    have horderly := h.positions _ _ pos hpos
    obtain ⟨debt, hdebt, hnonneg⟩ :
        ∃ debt, debtOfMode r pos mode p.clock = .ok debt ∧ 0 ≤ debt := by
      cases mode with
      | stable => exact horderly.stableDebt_total
      | floating => exact horderly.variableDebt_total (h.reserves _ r hr)
    dsimp only
    rw [hdebt, ok_bind]
    apply Answers.guard (hrefused _)
    intro _
    exact ⟨⟨r, hr⟩, show 0 ≤ min amount debt by omega⟩

theorem admitCollateralSwitch_answers (h : l.Orderly p.clock) (user asset : Name) :
    Answers faults (fun _ => ∃ r, l.reserve? asset = some r)
      (p.admitCollateralSwitch l user asset) := by
  apply admit_answers hrefused
  intro r hr
  obtain ⟨balance, hbalance, _⟩ := h.supplyOf_total hr user
  rw [hbalance, ok_bind]
  split
  · exact hrefused _
  · exact ⟨r, hr⟩

variable (hparams : p.params.NonNegative)
include hparams

theorem requireHealthy_answers (h : l.Orderly p.clock) (user : Name) (action : String) :
    Answers faults (fun _ => True) (p.requireHealthy l user action) := by
  apply (h.solvency_answers (s := p.surroundings) hrefused hparams.margin user).andThen
  intro report _
  split
  · exact hrefused _
  · trivial

theorem admitMarginSwitch_answers (h : l.Orderly p.clock) (user : Name) (enabled : Bool) :
    Answers faults (fun _ => True) (p.admitMarginSwitch l user enabled) := by
  apply (Answers.require (c := p.paused = true) (hrefused _)).andThen
  intro _ _
  apply (h.solvencyUsing_answers (s := p.surroundings) hrefused hparams.margin user enabled).andThen
  intro report _
  split
  · exact hrefused _
  · trivial

omit hparams in
theorem requireCollateralFor_answers {report : SolvencyReport} (h : report.Sound) (user : Name)
    {newDebt : Int} (hnew : 0 ≤ newDebt) :
    Answers faults (fun _ => True) (requireCollateralFor report user (.whole newDebt)) := by
  obtain ⟨debt, hdebt, hdebt'⟩ := h.debt
  obtain ⟨ltv, hltv, hltv'⟩ := h.ltv
  unfold requireCollateralFor
  apply Answers.guard (hrefused _)
  intro _
  rw [hdebt, hltv, Quantity.add_whole, ok_bind, Quantity.percentDiv_whole]
  have hneeded :
      Answers faults (fun _ => True) ((percentDiv (debt + newDebt) ltv).map Quantity.whole) :=
    ((percentDiv_answers hrefused (Int.add_nonneg hdebt' hnew) hltv').mono fun _ _ => trivial).map
  apply hneeded.andThen
  intro needed _
  split
  · exact hrefused _
  · trivial

theorem admitBorrow_answers (h : l.Orderly p.clock) (asset : Name) (amount : Int) (user : Name) :
    Answers faults
      (fun _ => ∃ r, l.reserve? asset = some r ∧ 0 < amount ∧ amount ≤ r.availableLiquidity)
      (p.admitBorrow l asset amount user) := by
  apply admit_answers hrefused
  intro r hr
  apply (Answers.require (c := r.frozen = true) (hrefused _)).andThen
  intro _ _
  apply Answers.guard (hrefused _)
  intro _
  apply (requirePositive_answers hrefused .borrowing amount).andThen
  intro _ hpositive
  apply (Answers.require (c := r.availableLiquidity < amount) (hrefused _)).andThen
  intro _ henough
  apply (h.solvency_answers (s := p.surroundings) hrefused hparams.margin user).andThen
  intro report hreport
  apply Answers.guard (hrefused _)
  intro _
  apply Answers.guard (hrefused _)
  intro _
  apply (p.prices.requirePrice_answers hrefused asset).andThen
  rintro price ⟨_, hprice⟩
  rw [valueOf_of_nonneg _ _ (h.wholeTokens _ r hr), ok_bind]
  have hvalue := wholeValue_nonneg (r := r) hprice (Int.le_of_lt hpositive)
  apply (requireCollateralFor_answers hrefused hreport user hvalue).mono
  intro _ _
  exact ⟨r, hr, hpositive, Int.not_lt.1 henough⟩

theorem requireStableLoan_answers (hr : r.Orderly p.clock) (hpos : pos.Orderly p.clock)
    (asset : Name) (amount : Int) (user : Name) :
    Answers faults (fun _ => True) (p.requireStableLoan r pos asset amount user) := by
  obtain ⟨balance, hbalance, _⟩ := hpos.supplyBalance_total hr
  obtain ⟨covers, hcovers⟩ : ∃ covers, coversItself r pos amount p.clock = .ok covers := by
    unfold coversItself
    split
    · rw [hbalance]
      exact ⟨_, rfl⟩
    · exact ⟨_, rfl⟩
  obtain ⟨limit, hlimit, _⟩ :=
    percentMul_total hr.liquidity hparams.liquidation.maxStableLoanPercent
  unfold requireStableLoan
  apply Answers.guard (hrefused _)
  intro _
  rw [hcovers, ok_bind]
  apply Answers.guard (hrefused _)
  intro _
  rw [hlimit, ok_bind]
  split
  · exact hrefused _
  · trivial

end Admission

/-! ## Bookings -/

section Bookings

variable {now : Int}
variable (hrefused : ∀ cause, faults (.refused cause)) (h : l.Orderly now)
  (hr : l.reserve? asset = some r)
include hrefused h hr

theorem bookDeposit_ends (user : Name) (hamount : 0 ≤ amount) :
    Ends faults (fun _ m => m.Orderly now) (bookDeposit asset amount user now) l := by
  have hmoney : 0 ≤ r.availableLiquidity + amount :=
    Int.add_nonneg (h.reserves _ r hr).liquidity hamount
  have hmint : (Booking.mintSupply user amount).Proper now := hamount
  unfold bookDeposit
  apply (h.accrue_ends hrefused hr).andThen
  intro _ m hm
  apply Ends.position
  apply (hm.money_ends hmoney).andThen
  intro _ n hn
  apply (hn.book_ends hmint).andThen
  intro _ k hk
  have hagain {k : Ledger} (first : Bool)
      (hk : Dealing now asset (r.availableLiquidity + amount) l k) :
      Ends faults (fun _ m => m.Orderly now) (do
        book asset (.accrue now)
        return first) k :=
    (hk.accrue_ends hrefused).andThen fun _ _ hj => hj.orderly
  dsimp only
  split
  · exact Ends.switch (hagain _ (hk.switch user true))
  · exact hagain _ hk

theorem bookWithdrawal_ends (user : Name) (hamount : 0 ≤ amount)
    (hle : amount ≤ r.availableLiquidity) :
    Ends faults (fun _ m => Dealing now asset (r.availableLiquidity + -amount) l m)
      (bookWithdrawal asset amount user now) l := by
  have hburn : (Booking.burnSupply user amount).Proper now := hamount
  exact h.booked_ends hrefused hr (by omega) fun m hm => hm.book_ends hburn

theorem bookLoan_ends (mode : RateMode) (user : Name) (hamount : 0 < amount)
    (hle : amount ≤ r.availableLiquidity) :
    Ends faults (fun _ m => m.Orderly now) (bookLoan asset amount mode user now) l := by
  have hmoney : 0 ≤ r.availableLiquidity + -amount := by omega
  unfold bookLoan
  apply (h.accrue_ends hrefused hr).andThen
  intro _ m hm
  obtain ⟨s, hs, hcurrent⟩ := hm.here
  have hmint : (mintBooking mode user amount (modeRate s mode) now).Proper now := by
    cases mode with
    | stable => exact ⟨hamount, hcurrent.orderly.stableRate, rfl⟩
    | floating => exact Int.le_of_lt hamount
  apply Ends.check (.of_total ⟨s, reserve_ok_iff.2 hs, rfl⟩)
  rintro _ rfl
  apply (hm.book_ends hmint).andThen
  intro _ n hn
  apply (hn.money_ends hmoney).andThen
  intro _ k hk
  apply (hk.accrue_ends hrefused).andThen
  intro _ j hj
  exact hj.orderly

theorem bookRepayment_ends (mode : RateMode) (user : Name) (hamount : 0 ≤ amount) :
    Ends faults (fun _ m => Dealing now asset (r.availableLiquidity + amount) l m)
      (bookRepayment asset amount mode user now) l := by
  have hmoney : 0 ≤ r.availableLiquidity + amount :=
    Int.add_nonneg (h.reserves _ r hr).liquidity hamount
  have hburn : (burnBooking mode user amount now).Proper now := by
    cases mode with
    | stable => rfl
    | floating => exact hamount
  exact h.booked_ends hrefused hr hmoney fun m hm => hm.book_ends hburn

end Bookings

/-! ## Operations -/

section Operations

variable (hrefused : ∀ cause, faults (.refused cause)) (hparams : p.params.NonNegative)
  (h : l.Orderly p.clock)
include hrefused hparams h

omit hparams in
theorem depositing_ends (asset : Name) (amount : Int) (user : Name) :
    Ends faults (fun _ m => m.Orderly p.clock) (p.depositing asset amount user) l := by
  unfold depositing
  apply Ends.check (admitDeposit_answers hrefused p l asset amount)
  rintro _ ⟨⟨r, hr⟩, hpositive⟩
  apply (bookDeposit_ends hrefused h hr user (Int.le_of_lt hpositive)).andThen
  intro _ m hm
  exact hm

theorem withdrawing_ends (asset : Name) (amount : Int) (user : Name) (recipient : Option Name) :
    Ends faults (fun _ m => m.Orderly p.clock) (p.withdrawing asset amount user recipient) l := by
  unfold withdrawing
  apply Ends.check (admitWithdrawal_answers hrefused h asset amount user)
  rintro taken ⟨r, hr, hpositive, hle⟩
  apply Ends.position
  apply (bookWithdrawal_ends hrefused h hr user (Int.le_of_lt hpositive) hle).andThen
  intro _ m hm
  apply Ends.position
  have hfinish {m : Ledger} (hm : m.Orderly p.clock) (receipt : Receipt Int) :
      Ends faults (fun _ m => m.Orderly p.clock) (do
        if (l.position user asset).usedAsCollateral then p.requireHealthy (← get) user "withdraw"
        return receipt) m := by
    split
    · exact Ends.check (requireHealthy_answers hrefused hparams hm user "withdraw") fun _ _ => hm
    · exact hm
  dsimp only
  split
  · exact Ends.switch (hfinish (hm.switch user false).orderly _)
  · exact hfinish hm.orderly _

theorem switchingCollateral_ends (user asset : Name) (enabled : Bool) :
    Ends faults (fun _ m => m.Orderly p.clock) (p.switchingCollateral user asset enabled) l := by
  unfold switchingCollateral
  apply Ends.check (admitCollateralSwitch_answers hrefused h user asset)
  rintro _ ⟨r, hr⟩
  have hswitched := h.switch user ⟨r, hr⟩ enabled
  apply Ends.switch
  dsimp only
  split
  · apply Ends.check (requireHealthy_answers hrefused hparams hswitched user "disabling collateral")
    intro _ _
    exact hswitched
  · exact hswitched

theorem switchingMargin_ends (user : Name) (enabled : Bool) :
    Ends faults (fun _ m => m.Orderly p.clock) (p.switchingMargin user enabled) l := by
  unfold switchingMargin
  apply Ends.check (admitMarginSwitch_answers hrefused hparams h user enabled)
  intro _ _
  exact ⟨h.reserves, h.named, h.positions, h.listed⟩

theorem borrowing_ends (asset : Name) (amount : Int) (mode : RateMode) (user : Name) :
    Ends faults (fun _ m => m.Orderly p.clock) (p.borrowing asset amount mode user) l := by
  unfold borrowing
  apply Ends.check (admitBorrow_answers hrefused hparams h asset amount user)
  rintro _ ⟨r, hr, hpositive, hle⟩
  have hopen := h.openPosition user ⟨r, hr⟩
  have hrest : Ends faults (fun _ m => m.Orderly p.clock) (do
      let rate ← bookLoan asset amount mode user p.clock
      p.requireHealthy (← get) user "borrow"
      return ({ value := (), contents := [.borrow asset user amount mode rate] } : Receipt Unit))
      (l.openPosition user asset) := by
    apply (bookLoan_ends hrefused hopen hr mode user hpositive hle).andThen
    intro rate m hm
    exact Ends.check (requireHealthy_answers hrefused hparams hm user "borrow") fun _ _ => hm
  apply Ends.opening
  dsimp only
  split
  · apply Ends.check (.of_total ⟨r, reserve_ok_iff.2 hr, rfl⟩)
    rintro _ rfl
    apply Ends.position
    have hpos := hopen.position user asset
    have hreserve := h.reserves _ r hr
    apply Ends.lift (requireStableLoan_answers hrefused hparams hreserve hpos asset amount user)
    intro _ _
    exact hrest
  · exact hrest

omit hparams in
theorem repaying_ends (asset : Name) (amount : Int) (mode : RateMode) (user : Name) :
    Ends faults (fun _ m => m.Orderly p.clock) (p.repaying asset amount mode user) l := by
  unfold repaying
  apply Ends.check (admitRepayment_answers hrefused h asset amount mode user)
  rintro paid ⟨⟨r, hr⟩, hpaid⟩
  apply (bookRepayment_ends hrefused h hr mode user hpaid).andThen
  intro _ m hm
  exact hm.orderly

theorem liquidating_ends {c : LiquidationCall}
    (hnamed : ∀ f, c.liquidator.named = .error f → faults f) :
    Ends faults (fun _ m => m.Orderly p.clock) (p.liquidating c) l := by
  unfold liquidating
  apply Ends.lift (Answers.require (c := p.paused = true) (hrefused _))
  intro _ _
  apply (h.liquidate_ends hrefused hparams.margin hparams.liquidation hnamed).andThen
  intro _ m hm
  exact hm

theorem settleMargin_ends {counterparty : Counterparty}
    (hcounterparty : ∀ i f, counterparty i = .error f → faults f) (m : MarginRequest) :
    Ends faults (fun _ m => m.Orderly p.clock) (p.settleMargin counterparty m) l := by
  unfold settleMargin
  apply Ends.lift (Answers.require (c := p.paused = true) (hrefused _))
  intro _ _
  apply (h.liquidateMargin_ends hrefused hparams.margin hparams.liquidation _).andThen
  intro result n hn
  have hsubmit : Answers faults (fun _ => True) (p.submit counterparty result.instruction) := by
    unfold submit
    cases result.instruction with
    | none => trivial
    | some i => exact .of_faults (hcounterparty i)
  apply Ends.lift hsubmit
  intro _ _
  exact hn

end Operations

end Pool

end MoneyMarket
