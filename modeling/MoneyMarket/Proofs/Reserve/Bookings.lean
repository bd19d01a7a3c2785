import MoneyMarket.Proofs.Reserve.Orderly

/-!
# Bookings in a current reserve

In a reserve that is in order and up to date every booking of an amount that is not negative is
done. It keeps the reserve and the position in order, and it does not touch the money.
-/

namespace MoneyMarket

open MoneyMarket.FixedPoint MoneyMarket.Interest

theorem Position.Orderly.stableDebt_total {now : Int} {pos : Position} (hpos : pos.Orderly now) :
    ∃ debt, pos.stableDebt now = .ok debt ∧ 0 ≤ debt := by
  obtain ⟨debt, hdebt⟩ := hpos.loan.readable
  exact ⟨debt, hdebt, StableLoan.debt_nonneg hdebt⟩

namespace Reserve

variable {now x : Int} {r s : Reserve} {pos : Position} {amount rate : Int} {rp : WithPosition}
  {loans : Prop}

def Books (now x : Int) (r : Reserve) (booked : Except Fault WithPosition) : Prop :=
  ∃ rp, booked = .ok rp ∧ rp.1.Current now x ∧ rp.1.asset = r.asset ∧ rp.2.Orderly now

theorem Moved.current (h : Moved loans r pos rp) (hr : r.Current now x) (hpos : pos.Orderly now)
    (hlent : rp.1.loan.Orderly now) (howed : rp.2.loan.Orderly now) :
    rp.1.Current now x ∧ rp.2.Orderly now := by
  have horderly := hr.orderly
  have htime := hr.time
  cases h with
  | nothing => exact ⟨hr, hpos⟩
  | supplied y hy =>
    exact ⟨⟨{ horderly with }, htime, hr.liquidity⟩,
      { hpos with supply := Int.add_nonneg hpos.supply hy }⟩
  | withdrawn y hy hle =>
    exact ⟨⟨{ horderly with }, htime, hr.liquidity⟩, { hpos with supply := Int.sub_nonneg.2 hle }⟩
  | borrowed y hy =>
    exact ⟨⟨{ horderly with floating := Int.add_nonneg horderly.floating hy }, htime, hr.liquidity⟩,
      { hpos with floating := Int.add_nonneg hpos.floating hy }⟩
  | repaid y hy hle =>
    exact ⟨⟨{ horderly with floating := Int.le_max_right _ _ }, htime, hr.liquidity⟩,
      { hpos with floating := Int.sub_nonneg.2 hle }⟩
  | lent => exact ⟨hr, { hpos with loan := howed }⟩
  | averaged =>
    subst htime
    exact ⟨⟨{ horderly with loan := hlent }, rfl, hr.liquidity⟩, { hpos with loan := howed }⟩

theorem Moved.books {booked : Except Fault WithPosition} (h : Moved False r pos rp)
    (hdone : booked = .ok rp) (hr : r.Current now x) (hpos : pos.Orderly now) :
    Books now x r booked := by
  have hlent := hr.orderly.loan_now
  have hloans : rp.1.loan = r.loan ∧ rp.2.loan = pos.loan := by
    cases h with
    | lent h | averaged h => exact h.elim
    | _ => exact ⟨rfl, rfl⟩
  have hcurrent := h.current hr hpos (hloans.1 ▸ hlent) (hloans.2 ▸ hpos.loan)
  exact ⟨rp, hdone, hcurrent.1, h.asset, hcurrent.2⟩

/-! ## Supply and variable debt -/

theorem scaledShare_total {stored index : Int} (hs : 0 ≤ stored) (hi : 0 < index)
    (ha : 0 ≤ amount) :
    ∃ y, scaledShare stored index amount = .ok y := by
  obtain ⟨balance, h₁, _⟩ := rayMul_total hs (Int.le_of_lt hi)
  obtain ⟨scaled, h₂, _⟩ := rayDiv_total ha hi
  unfold scaledShare
  rw [h₁, ok_bind, h₂]
  split <;> exact ⟨_, rfl⟩

section Moving

variable (hr : r.Current now x) (hpos : pos.Orderly now) (ha : 0 ≤ amount)
include hr hpos ha

theorem Current.mintSupply : Books now x r (r.mintSupply pos amount) := by
  obtain ⟨scaled, h, _⟩ := rayDiv_total ha hr.orderly.income
  obtain ⟨rp, hdone⟩ : ∃ rp, r.mintSupply pos amount = .ok rp := by
    unfold Reserve.mintSupply
    rw [h, ok_bind]
    exact ⟨_, rfl⟩
  exact (mintSupply_moved hdone).books hdone hr hpos

theorem Current.burnSupply : Books now x r (r.burnSupply pos amount) := by
  obtain ⟨scaled, h⟩ := scaledShare_total hpos.supply hr.orderly.income ha
  obtain ⟨rp, hdone⟩ : ∃ rp, r.burnSupply pos amount = .ok rp := by
    unfold Reserve.burnSupply
    rw [h, ok_bind]
    exact ⟨_, rfl⟩
  exact (burnSupply_moved hdone).books hdone hr hpos

theorem Current.mintVariableDebt : Books now x r (r.mintVariableDebt pos amount) := by
  obtain ⟨scaled, h, _⟩ := rayDiv_total ha hr.orderly.debt
  obtain ⟨rp, hdone⟩ : ∃ rp, r.mintVariableDebt pos amount = .ok rp := by
    unfold Reserve.mintVariableDebt
    rw [h, ok_bind]
    exact ⟨_, rfl⟩
  exact (mintVariableDebt_moved hdone).books hdone hr hpos

theorem Current.burnVariableDebt : Books now x r (r.burnVariableDebt pos amount) := by
  obtain ⟨scaled, h⟩ := scaledShare_total hpos.floating hr.orderly.debt ha
  obtain ⟨rp, hdone⟩ : ∃ rp, r.burnVariableDebt pos amount = .ok rp := by
    unfold Reserve.burnVariableDebt
    rw [h, ok_bind]
    exact ⟨_, rfl⟩
  exact (burnVariableDebt_moved hdone).books hdone hr hpos

theorem Current.transferShare :
    ∃ y, r.transferShare pos amount = .ok y ∧ 0 ≤ y ∧ y ≤ pos.scaledBalance := by
  obtain ⟨y, hy⟩ := scaledShare_total hpos.supply hr.orderly.income ha
  exact ⟨y, hy, scaledShare_bounds hy⟩

end Moving

/-! ## Stable debt -/

theorem blendedRate_total {kept total added next : Int} (hkept : 0 ≤ kept) (htotal : 0 ≤ total)
    (hadded : 0 ≤ added) (hamount : 0 ≤ amount) (hnext : 0 < next) :
    ∃ y, blendedRate kept total added amount next = .ok y :=
  ⟨_, blendedRate_ok_iff.2 ⟨hkept, htotal, hadded, hamount, hnext, rfl⟩⟩

theorem stableAfterAdding_total {total : Int} (hr : 0 ≤ r.averageStableRate) (htotal : 0 ≤ total)
    (hamount : 0 ≤ amount) (hrate : 0 ≤ rate) :
    ∃ y, r.stableAfterAdding total amount rate = .ok y := by
  by_cases hnone : total + amount = 0
  · exact ⟨_, stableAfterAdding_ok_iff.2 (.inl ⟨hnone, rfl⟩)⟩
  · have hnext : 0 < total + amount := by omega
    exact ⟨_, stableAfterAdding_ok_iff.2 (.inr ⟨hr, htotal, hrate, hamount, hnext, rfl⟩)⟩

theorem stableAfterRemoving_total {total : Int} (hr : 0 ≤ r.averageStableRate)
    (hamount : 0 ≤ amount) (hrate : 0 ≤ rate) :
    ∃ y, r.stableAfterRemoving total amount rate = .ok y := by
  by_cases hall : total ≤ amount
  · exact ⟨_, stableAfterRemoving_ok_iff.2 (.inl ⟨hall, rfl⟩)⟩
  · have hpart : amount < total := by omega
    exact ⟨_, stableAfterRemoving_ok_iff.2 (.inr ⟨hpart, hr, hrate, hamount, rfl⟩)⟩

theorem Orderly.updateStableRate_total (hr : r.Orderly now) (change : Int) (hrate : 0 ≤ rate) :
    ∃ s, r.updateStableRate change rate now = .ok s := by
  obtain ⟨total, htotal, hnonneg⟩ := hr.stableDebt_total
  obtain ⟨y, hy⟩ : ∃ y, (if 0 ≤ change then r.stableAfterAdding total change rate
      else r.stableAfterRemoving total (-change) rate) = .ok y := by
    split
    · exact stableAfterAdding_total hr.loan.rate hnonneg ‹_› hrate
    · exact stableAfterRemoving_total hr.loan.rate (by omega) hrate
  exact ⟨_, updateStableRate_ok_iff.2 ⟨total, y, hrate, htotal, hy, rfl⟩⟩

theorem updateStableRate_loan {change : Int} (h : r.updateStableRate change rate now = .ok s) :
    s.loan.Orderly now := ⟨updateStableRate_readable h, updateStableRate_average h⟩

theorem Current.mintStableDebt (hr : r.Current now x) (hpos : pos.Orderly now) (ha : 0 < amount)
    (hrate : 0 ≤ rate) :
    Books now x r (Stage.perform (stableDebtStages amount rate now) (r, pos)) := by
  obtain ⟨current, h₁, hcurrent⟩ := hpos.stableDebt_total
  have hown : 0 ≤ pos.stableRate := hpos.loan.rate
  have hnext : 0 < current + amount := by omega
  obtain ⟨own, h₂⟩ := blendedRate_total hown hcurrent hrate (Int.le_of_lt ha) hnext
  obtain ⟨s, h₃⟩ := hr.orderly.updateStableRate_total amount hrate
  have hdone : Stage.perform (stableDebtStages amount rate now) (r, pos) =
      .ok (s, pos.withLoan ⟨current + amount, own, now⟩) := by
    simp only [stableDebtStages, Stage.perform_cons, lendStable, h₁, h₂, ok_bind]
    rw [pure_bind, Stage.perform_cons, averageInStable, h₃]
    rfl
  have hmoved : Moved True r pos _ := mintStableDebt_moved trivial hdone
  have howed : StableLoan.Orderly now ⟨current + amount, own, now⟩ :=
    StableLoan.orderly_of_now (Int.le_of_lt hnext) rfl (blendedRate_ok h₂).2
  have hcurrent := hmoved.current hr hpos (updateStableRate_loan h₃) howed
  exact ⟨_, hdone, hcurrent.1, hmoved.asset, hcurrent.2⟩

theorem Current.burnStableDebt (hr : r.Current now x) (hpos : pos.Orderly now) (amount : Int) :
    Books now x r (r.burnStableDebt pos amount now) := by
  obtain ⟨current, h₁, hcurrent⟩ := hpos.stableDebt_total
  have hrate : 0 ≤ pos.stableRate := hpos.loan.rate
  obtain ⟨s, h₂⟩ := hr.orderly.updateStableRate_total (-min amount current) hrate
  have hdone : r.burnStableDebt pos amount now = .ok (s, pos.withLoan
      ⟨current - min amount current, if current - min amount current = 0 then 0 else pos.stableRate,
        if current - min amount current = 0 then 0 else now⟩) := by
    unfold Reserve.burnStableDebt
    rw [h₁, ok_bind]
    dsimp only
    rw [h₂]
    rfl
  have hmoved : Moved True r pos _ := burnStableDebt_moved trivial hdone
  have howed : 0 ≤ if current - min amount current = 0 then 0 else pos.stableRate := by
    split
    · exact Int.le_refl 0
    · exact hrate
  have hcurrent := hmoved.current hr hpos (updateStableRate_loan h₂)
    ⟨(burnStableDebt_readable hdone).2, howed⟩
  exact ⟨_, hdone, hcurrent.1, hmoved.asset, hcurrent.2⟩

end Reserve

end MoneyMarket
