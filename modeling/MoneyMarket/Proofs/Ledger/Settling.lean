import MoneyMarket.Proofs.Ledger.Loans
import MoneyMarket.Proofs.Ledger.Visit
import MoneyMarket.Proofs.Reserve.Shares

/-!
# Settling a debt and seizing collateral

A liquidation visits the reserve of the debt and then that of the collateral. The first visit takes
stable debt exactly, and variable debt by a share of what is stored; the second takes supply by such
a share. A share stands for an amount up to half a unit of its index and one.
-/

namespace MoneyMarket

open MoneyMarket.FixedPoint MoneyMarket.Reserve MoneyMarket.LedgerWork

/-! ## Shares -/

/-- A balance at an index is lower by an amount, up to half a unit of the index and one. Nothing is
left of it if the amount is all of it. -/
def Lowered (index balance amount left : Int) : Prop :=
  2 * ray * |balance - left - amount| < index + 2 * ray ∧ (amount = balance → left = 0)

/-- What is taken from a stored amount for an amount, and nothing for nothing. -/
def Taken (stored index amount x : Int) : Prop :=
  amount = 0 ∧ x = 0 ∨ scaledShare stored index amount = .ok x

section Shares

variable {stored index amount x : Int}

theorem Taken.bounds (h : Taken stored index amount x) (hstored : 0 ≤ stored) :
    0 ≤ x ∧ x ≤ stored := by
  rcases h with ⟨_, rfl⟩ | h
  · exact ⟨Int.le_refl 0, hstored⟩
  · exact scaledShare_bounds h

theorem lowered_all (hindex : 0 ≤ index) : Lowered index amount amount 0 := by
  refine ⟨?_, fun _ => rfl⟩
  rw [Int.sub_zero, Int.sub_self, abs_zero, Int.mul_zero]
  have := ray_pos
  omega

theorem lowered_nothing (hindex : 0 ≤ index) : Lowered index amount 0 amount := by
  refine ⟨?_, Eq.symm⟩
  rw [Int.sub_self, Int.sub_zero, abs_zero, Int.mul_zero]
  have := ray_pos
  omega

theorem Taken.lowered (h : Taken stored index amount x) (hindex : 0 ≤ index)
    (hle : amount ≤ mulRound ray halfRay stored index) :
    Lowered index (mulRound ray halfRay stored index) amount
      (mulRound ray halfRay (stored - x) index) := by
  rcases h with ⟨rfl, rfl⟩ | h
  · rw [Int.sub_zero]
    exact lowered_nothing hindex
  · simp only [scaledShare, bind_ok_iff, rayMul_ok_iff] at h
    obtain ⟨_, ⟨_, _, rfl⟩, h⟩ := h
    split at h
    · rename_i hall
      cases h
      rw [Int.sub_self, rayRound_zero, Int.le_antisymm hle hall]
      exact lowered_all hindex
    · rename_i hsome
      simp only [bind_ok_iff, rayDiv_ok_iff, pure_ok_iff] at h
      obtain ⟨_, ⟨_, hpos, rfl⟩, rfl⟩ := h
      refine ⟨?_, by omega⟩
      have hray := ray_pos
      have hhalf : 2 * halfRay = ray := rfl
      rw [min_eq_left (quotient_le_stored hpos (Int.not_le.1 hsome))]
      -- the share is rounded by half a unit of the index at most, and each balance by a half
      obtain ⟨hquotient, hquotient'⟩ := rayQuotient_bounds amount hpos
      obtain ⟨hbalance, hbalance'⟩ := rayRound_bounds stored index
      generalize divRound ray amount index = share at hquotient hquotient' ⊢
      obtain ⟨hleft, hleft'⟩ := rayRound_bounds (stored - share) index
      rw [Int.sub_mul] at hleft hleft'
      generalize mulRound ray halfRay stored index = balance at hbalance hbalance' ⊢
      generalize mulRound ray halfRay (stored - share) index = left at hleft hleft' ⊢
      rcases abs_cases (balance - left - amount) with ⟨h, _⟩ | ⟨h, _⟩ <;> rw [h] <;> linarith

end Shares

namespace Ledger

/-! ## What an account shows in an asset -/

def Owes (l : Ledger) (now : Int) (user asset : Key) (stable floating : Int) : Prop :=
  ∃ r, l.reserve? asset = some r ∧ l.debtsOf user asset r now = .ok (stable, floating)

def Holds (l : Ledger) (now : Int) (user asset : Key) (balance : Int) : Prop :=
  ∃ r, l.reserve? asset = some r ∧ l.supplyOf user asset r now = .ok balance

variable {now : Int} {user asset : Name} {l m n : Ledger} {r s t : Reserve} {pos : Position}
  {stable floating balance amount : Int} {u : Unit}

theorem debtsOf_ok_iff : l.debtsOf user asset r now = .ok (stable, floating) ↔
    (l.position user asset).stableDebt now = .ok stable ∧
      (l.position user asset).variableDebt r now = .ok floating := by
  unfold debtsOf Ledger.position
  cases l.position? user asset with
  | none =>
    simp only [pure_ok_iff, Prod.mk.injEq, Option.getD_none, Position.stableDebt,
      Position.variableDebt, if_true]
  | some p => simp only [bind_ok_iff, pure_ok_iff, Prod.mk.injEq, Option.getD_some,
      exists_eq_right_right]

theorem supplyOf_eq : l.supplyOf user asset r now = (l.position user asset).supplyBalance r now := by
  unfold supplyOf Ledger.position
  cases l.position? user asset <;> rfl

theorem SameFor.reserves {v a : Key} (h : SameFor now v l m) {P : Reserve → Prop}
    (hl : ∃ r, l.reserve? a = some r ∧ P r) :
    ∃ r s, l.reserve? a = some r ∧ m.reserve? a = some s ∧ P r := by
  obtain ⟨r, hr, hp⟩ := hl
  have hconfig := h.configs a
  rw [hr] at hconfig
  obtain ⟨s, hs, _⟩ := Option.map_eq_some_iff.1 hconfig
  exact ⟨r, s, hr, hs, hp⟩

theorem SameFor.owes {v a : Key} (h : SameFor now v l m) (howes : l.Owes now v a stable floating) :
    m.Owes now v a stable floating := by
  obtain ⟨r, s, hr, hs, hdebts⟩ := h.reserves howes
  refine ⟨s, hs, ?_⟩
  unfold debtsOf at hdebts ⊢
  rw [h.position?]
  cases hpos : l.position? v a with
  | none => rwa [hpos] at hdebts
  | some p =>
    rw [hpos] at hdebts
    simpa only [(h.alike a p r s hpos hr hs).debt] using hdebts

theorem SameFor.holds {v a : Key} (h : SameFor now v l m) (hholds : l.Holds now v a balance) :
    m.Holds now v a balance := by
  obtain ⟨r, s, hr, hs, hsupply⟩ := h.reserves hholds
  refine ⟨s, hs, ?_⟩
  unfold supplyOf at hsupply ⊢
  rw [h.position?]
  cases hpos : l.position? v a with
  | none => rwa [hpos] at hsupply
  | some p =>
    rw [hpos] at hsupply
    simpa only [(h.alike a p r s hpos hr hs).supply] using hsupply

/-! ## Balances after a visit -/

theorem variableDebt_shown (htime : s.lastUpdateTimestamp = now) (hrunning : Running now s)
    (hpos : 0 ≤ pos.scaledVariableDebt) : pos.variableDebt s now =
      .ok (mulRound ray halfRay pos.scaledVariableDebt s.variableBorrowIndex) := by
  unfold Position.variableDebt
  split
  · rename_i hzero
    rw [hzero, rayRound_zero]
    rfl
  · rw [normalizedDebt_updated htime, ok_bind]
    exact rayMul_ok_iff.2 ⟨hpos, hrunning.debt, rfl⟩

theorem supplyBalance_shown (htime : s.lastUpdateTimestamp = now) (hrunning : Running now s)
    (hpos : 0 ≤ pos.scaledBalance) : pos.supplyBalance s now =
      .ok (mulRound ray halfRay pos.scaledBalance s.liquidityIndex) := by
  unfold Position.supplyBalance
  split
  · rename_i hzero
    rw [hzero, rayRound_zero]
    rfl
  · rw [normalizedIncome_updated htime, ok_bind]
    exact rayMul_ok_iff.2 ⟨hpos, hrunning.income, rfl⟩

theorem Visit.variableDebt_before (h : Visit now user asset l r m s pos) (hl : Timely now l)
    (hfloating : (l.position user asset).variableDebt r now = .ok floating) : floating =
      mulRound ray halfRay (l.position user asset).scaledVariableDebt s.variableBorrowIndex := by
  have halike : Alike now (l.position user asset) r s := h.alike (hl.counted_position h.before)
  rw [← halike.debt, variableDebt_shown h.time h.running (hl.debt_nonneg _ _),
    Except.ok.injEq] at hfloating
  exact hfloating.symm

/-- What was owed is the stored debt at the index of after. -/
theorem Visit.owed_before (h : Visit now user asset l r m s pos) (hl : Timely now l)
    (howes : l.Owes now user asset stable floating) :
    (l.position user asset).stableDebt now = .ok stable ∧
      floating = mulRound ray halfRay (l.position user asset).scaledVariableDebt
        s.variableBorrowIndex := by
  obtain ⟨r', hr, hdebts⟩ := howes
  rw [h.before, Option.some.injEq] at hr
  subst hr
  obtain ⟨hstable, hfloating⟩ := debtsOf_ok_iff.1 hdebts
  exact ⟨hstable, h.variableDebt_before hl hfloating⟩

theorem Visit.owed_after (h : Visit now user asset l r m s pos) (hpos : 0 ≤ pos.scaledVariableDebt)
    (hstable : pos.stableDebt now = .ok stable) : m.Owes now user asset stable
      (mulRound ray halfRay pos.scaledVariableDebt s.variableBorrowIndex) := by
  refine ⟨s, h.after, debtsOf_ok_iff.2 ?_⟩
  rw [h.position]
  exact ⟨hstable, variableDebt_shown h.time h.running hpos⟩

theorem Visit.held_before (h : Visit now user asset l r m s pos) (hl : Timely now l)
    (hholds : l.Holds now user asset balance) : balance =
      mulRound ray halfRay (l.position user asset).scaledBalance s.liquidityIndex := by
  obtain ⟨r', hr, hsupply⟩ := hholds
  rw [h.before, Option.some.injEq] at hr
  subst hr
  have halike : Alike now (l.position user asset) r s := h.alike (hl.counted_position h.before)
  rw [supplyOf_eq, ← halike.supply, supplyBalance_shown h.time h.running (hl.supply_nonneg _ _),
    Except.ok.injEq] at hsupply
  exact hsupply.symm

theorem Visit.held_after (h : Visit now user asset l r m s pos) (hpos : 0 ≤ pos.scaledBalance) :
    m.Holds now user asset (mulRound ray halfRay pos.scaledBalance s.liquidityIndex) := by
  refine ⟨s, h.after, ?_⟩
  rw [supplyOf_eq, h.position]
  exact supplyBalance_shown h.time h.running hpos

theorem Visit.owes (h : Visit now user asset l r m s pos) (hl : Timely now l)
    (hloan : pos.loan = (l.position user asset).loan)
    (hdebt : pos.scaledVariableDebt = (l.position user asset).scaledVariableDebt) {a : Key}
    (howes : l.Owes now user a stable floating) : m.Owes now user a stable floating := by
  by_cases ha : a = asset.key
  · subst ha
    obtain ⟨hstable, rfl⟩ := h.owed_before hl howes
    rw [← hdebt]
    apply h.owed_after
    · rw [hdebt]
      exact hl.debt_nonneg _ _
    · rw [← Position.debt_loan, hloan]
      exact hstable
  · obtain ⟨t, ht, hdebts⟩ := howes
    refine ⟨t, (h.elsewhere a ha).trans ht, ?_⟩
    unfold debtsOf
    rw [h.position?_elsewhere ha]
    exact hdebts

theorem Visit.holds (h : Visit now user asset l r m s pos) (hl : Timely now l)
    (hsupply : pos.scaledBalance = (l.position user asset).scaledBalance) {a : Key}
    (hholds : l.Holds now user a balance) : m.Holds now user a balance := by
  by_cases ha : a = asset.key
  · subst ha
    rw [h.held_before hl hholds, ← hsupply]
    apply h.held_after
    rw [hsupply]
    exact hl.supply_nonneg _ _
  · obtain ⟨t, ht, hsupplied⟩ := hholds
    refine ⟨t, (h.elsewhere a ha).trans ht, ?_⟩
    unfold supplyOf
    rw [h.position?_elsewhere ha]
    exact hsupplied

/-! ## Settling -/

section Settling

variable {borrower : Name}

theorem Visit.repayFloating (h : Visit now borrower asset l r m s pos) (hamount : 0 ≤ amount)
    (hw : if 0 < amount then m.book asset (.burnVariableDebt borrower amount) = ⟨n, none⟩
      else n = m) :
    ∃ t x, Visit now borrower asset l r n t
        { pos with scaledVariableDebt := pos.scaledVariableDebt - x } ∧
      t.availableLiquidity = s.availableLiquidity ∧
      t.variableBorrowIndex = s.variableBorrowIndex ∧
      Taken pos.scaledVariableDebt s.variableBorrowIndex amount x := by
  split at hw
  · obtain ⟨_, hburned, hvisit⟩ := h.stage hw fun _ => burnVariableDebt_moved
    simp only [Reserve.burnVariableDebt, bind_ok_iff, pure_ok_iff] at hburned
    obtain ⟨x, hx, rfl⟩ := hburned
    exact ⟨_, x, hvisit, rfl, rfl, .inr hx⟩
  · subst hw
    refine ⟨s, 0, ?_, rfl, rfl, .inl ⟨by omega, rfl⟩⟩
    rwa [Int.sub_zero]

theorem Visit.repayDebt (h : Visit now borrower asset l r m s pos) (hamount : 0 ≤ amount)
    (hstable : pos.stableDebt now = .ok stable)
    (hw : repayDebt borrower asset amount now m = .ok u n) :
    ∃ t y x, Visit now borrower asset l r n t { pos.withLoan y with
        scaledVariableDebt := pos.scaledVariableDebt - x } ∧
      t.availableLiquidity = s.availableLiquidity ∧
      t.variableBorrowIndex = s.variableBorrowIndex ∧
      y.debt now = .ok (stable - min amount stable) ∧
      Taken pos.scaledVariableDebt s.variableBorrowIndex (amount - min amount stable) x := by
  have hnonneg := StableLoan.debt_nonneg (x := pos.loan) hstable
  have hvisit := h.openPosition
  obtain ⟨owed, m₁, howed, hburn, hw⟩ := repayDebt_completed hw
  rw [hvisit.position, hstable, Except.ok.injEq] at howed
  subst howed
  split at hburn
  · obtain ⟨_, hburned, hvisit⟩ := hvisit.stage hburn fun _ => burnStableDebt_moved trivial
    obtain ⟨current, x, y, hcurrent, rfl, hleft, hy, _⟩ := burnStableDebt_left hburned
    rw [hstable, Except.ok.injEq] at hcurrent
    subst hcurrent
    obtain ⟨t, z, hvisit, hliquidity, hindex, htaken⟩ := hvisit.repayFloating (by omega) hw
    have hleft : y.principal = stable - min amount stable := by omega
    exact ⟨t, y, z, hvisit, hliquidity, hindex, hleft ▸ hy, htaken⟩
  · subst hburn
    obtain ⟨t, z, hvisit, hliquidity, hindex, htaken⟩ := hvisit.repayFloating (by omega) hw
    have hleft : stable - min amount stable = stable := by omega
    exact ⟨t, pos.loan, z, hvisit, hliquidity, hindex, hleft.symm ▸ hstable, htaken⟩

theorem settleDebt_visit (hl : Timely now l) (hamount : 0 ≤ amount)
    (howes : l.Owes now borrower asset stable floating) (hle : amount ≤ stable + floating)
    (hw : settleDebt borrower asset amount now l = .ok u m) :
    ∃ r s pos, Visit now borrower asset l r m s pos ∧
      s.availableLiquidity = r.availableLiquidity + amount ∧ 0 ≤ s.availableLiquidity ∧
      pos.scaledBalance = (l.position borrower asset).scaledBalance ∧
      ∃ left, m.Owes now borrower asset (stable - min amount stable) left ∧
        Lowered s.variableBorrowIndex floating (amount - min amount stable) left := by
  obtain ⟨l₁, l₂, l₃, haccrue, hrepay, hmoney, hagain⟩ := settleDebt_booked hw
  obtain ⟨r, s₁, hbegun, hupdated⟩ := visit_of_accrue hl haccrue
  obtain ⟨hstable, rfl⟩ := hbegun.owed_before hl howes
  obtain ⟨s₂, y, x, hrepaid, hliquidity, hindex, hy, htaken⟩ :=
    hbegun.repayDebt hamount hstable hrepay
  have hpaid := hrepaid.money hmoney
  -- no time has passed since the first accrual, so the second one moves no index
  obtain ⟨s, hended, hupdated'⟩ := hpaid.accrue hagain
  have hstands : s.variableBorrowIndex = s₁.variableBorrowIndex := by
    rw [hupdated'.stands hpaid.time]
    exact hindex
  have hmoney' : s.availableLiquidity = r.availableLiquidity + amount := by
    rw [hupdated'.availableLiquidity, ← hupdated.availableLiquidity, ← hliquidity]
  have hbounds := htaken.bounds (hl.debt_nonneg borrower asset)
  have hnonneg := rayRound_nonneg (hl.debt_nonneg borrower asset) hbegun.running.debt
  refine ⟨r, s, _, hended, hmoney', hupdated'.liquidity, rfl, _, hended.owed_after ?_ hy, ?_⟩
  · dsimp only
    omega
  · rw [hstands]
    apply htaken.lowered hbegun.running.debt
    omega

/-! ## Seizing -/

theorem Visit.payOut (h : Visit now borrower asset l r m s pos)
    (hw : payOutCollateral borrower asset amount m = .ok u n) :
    ∃ t x, Visit now borrower asset l r n t
        { pos with scaledBalance := pos.scaledBalance - x } ∧
      t.availableLiquidity = s.availableLiquidity - amount ∧ t.liquidityIndex = s.liquidityIndex ∧
      scaledShare pos.scaledBalance s.liquidityIndex amount = .ok x := by
  obtain ⟨m₁, hburn, hmoney⟩ := payOutCollateral_completed hw
  obtain ⟨_, hburned, hvisit⟩ := h.stage hburn fun _ => burnSupply_moved
  simp only [Reserve.burnSupply, bind_ok_iff, pure_ok_iff] at hburned
  obtain ⟨x, hx, rfl⟩ := hburned
  exact ⟨_, x, hvisit.money hmoney, rfl, rfl, hx⟩

theorem Visit.handOver {liquidator : Json} (h : Visit now borrower asset l r m s pos)
    (hother : ∀ name, liquidator.named = .ok name → name.key ≠ borrower.key)
    (hw : handOverCollateral borrower asset liquidator amount m = .ok u n) :
    ∃ x, Visit now borrower asset l r n s { pos with scaledBalance := pos.scaledBalance - x } ∧
      scaledShare pos.scaledBalance s.liquidityIndex amount = .ok x := by
  obtain ⟨name, m₁, hname, htransfer, rfl⟩ := handOverCollateral_completed hw
  obtain ⟨x, hx, hvisit⟩ := h.transfer (hother name hname) htransfer
  refine ⟨x, ?_, hx⟩
  split
  · exact hvisit.setOther (hother name hname) _ _
  · exact hvisit

theorem Visit.retire (h : Visit now borrower asset l r m s pos)
    (hw : retireEmptyCollateral borrower asset m = .ok u n) :
    ∃ enabled, Visit now borrower asset l r n s { pos with usedAsCollateral := enabled } := by
  rw [retireEmptyCollateral_completed hw]
  split
  · exact ⟨false, h.switch false⟩
  · exact ⟨pos.usedAsCollateral, h⟩

/-- However the collateral is paid out, a share of the supply is taken for it. -/
theorem Visit.takeCollateral {c : LiquidationCall}
    (h : Visit now c.borrower c.collateralAsset l r m s pos)
    (hother : ∀ name, c.liquidator.named = .ok name → name.key ≠ c.borrower.key)
    (hw : (if c.receiveUnderlying then payOutCollateral c.borrower c.collateralAsset amount
      else handOverCollateral c.borrower c.collateralAsset c.liquidator amount) m = .ok u n) :
    ∃ t x, Visit now c.borrower c.collateralAsset l r n t
        { pos with scaledBalance := pos.scaledBalance - x } ∧
      t.availableLiquidity = s.availableLiquidity - (if c.receiveUnderlying then amount else 0) ∧
      t.liquidityIndex = s.liquidityIndex ∧
      scaledShare pos.scaledBalance s.liquidityIndex amount = .ok x := by
  split at hw
  · rw [if_pos ‹_›]
    exact h.payOut hw
  · rw [if_neg ‹_›, Int.sub_zero]
    obtain ⟨x, hvisit, hx⟩ := h.handOver hother hw
    exact ⟨s, x, hvisit, rfl, rfl, hx⟩

theorem moveCollateral_visit {c : LiquidationCall} (hl : Timely now l)
    (hother : ∀ name, c.liquidator.named = .ok name → name.key ≠ c.borrower.key)
    (hholds : l.Holds now c.borrower c.collateralAsset balance) (hle : amount ≤ balance)
    (hw : moveCollateral c amount now l = .ok u m) :
    ∃ r s pos, Visit now c.borrower c.collateralAsset l r m s pos ∧
      s.availableLiquidity = r.availableLiquidity - (if c.receiveUnderlying then amount else 0) ∧
      0 ≤ s.availableLiquidity ∧
      pos.loan = (l.position c.borrower c.collateralAsset).loan ∧
      pos.scaledVariableDebt = (l.position c.borrower c.collateralAsset).scaledVariableDebt ∧
      ∃ left, m.Holds now c.borrower c.collateralAsset left ∧
        Lowered s.liquidityIndex balance amount left := by
  obtain ⟨l₁, l₂, l₃, haccrue, htake, hagain, hretire⟩ := moveCollateral_done hw
  obtain ⟨r, s₁, hbegun, hupdated⟩ := visit_of_accrue hl haccrue
  obtain ⟨s₂, x, htaken, hliquidity, hindex, hx⟩ := hbegun.takeCollateral hother htake
  obtain ⟨s, haccrued, hupdated'⟩ := htaken.accrue hagain
  obtain ⟨enabled, hended⟩ := haccrued.retire hretire
  have hbalance := hbegun.held_before hl hholds
  have hsupply := hl.supply_nonneg c.borrower c.collateralAsset
  have hbounds := scaledShare_bounds hx
  have hstands : s.liquidityIndex = s₁.liquidityIndex := by
    rw [hupdated'.liquidityIndex_eq htaken.time, hindex]
  have hmoney : s.availableLiquidity =
      r.availableLiquidity - (if c.receiveUnderlying then amount else 0) := by
    rw [hupdated'.availableLiquidity, hliquidity, hupdated.availableLiquidity]
  refine ⟨r, s, _, hended, hmoney, hupdated'.liquidity, rfl, rfl, _, hended.held_after ?_, ?_⟩
  · dsimp only
    omega
  · rw [hbalance, hstands]
    apply Taken.lowered (.inr hx) hbegun.running.income
    rwa [← hbalance]

end Settling

end Ledger

end MoneyMarket
