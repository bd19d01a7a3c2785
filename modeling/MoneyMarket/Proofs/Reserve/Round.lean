import MoneyMarket.Proofs.Reserve.Accrual
import MoneyMarket.Proofs.Reserve.Projection

/-!
# Rounds of business

All business with a reserve is done between two accruals at one time. The first brings the indices
up to that time, the second gives the rates that the new amounts call for. So the stored rates are
those of the stored state whenever a round is over, and a further accrual at that time finds nothing
to do. What the indices would be at the time of the round is the same before and after it.
-/

namespace MoneyMarket.Reserve

open MoneyMarket.FixedPoint MoneyMarket.Interest

variable {r s t : Reserve} {now : Int}

/-! ## Rates of the stored state -/

/-- The stored rates are those that the strategy gives to the stored state. -/
def Fresh (r : Reserve) : Prop :=
  r.derivedRates r.lastUpdateTimestamp = .ok
    ⟨r.currentLiquidityRate, r.currentStableBorrowRate, r.currentVariableBorrowRate⟩

theorem accrue_time (h : r.accrue now = .ok s) : s.lastUpdateTimestamp = now := by
  obtain ⟨_, _, _, _, -, _, _, _, _, rfl⟩ := accrue_stages h
  rfl

theorem accrue_fresh (h : r.accrue now = .ok s) : s.Fresh := by
  obtain ⟨_, _, r₃, r₄, -, _, _, _, h₄, rfl⟩ := accrue_stages h
  simp only [deriveRates, bind_ok_iff, pure_ok_iff] at h₄
  obtain ⟨rates, hrates, rfl⟩ := h₄
  exact hrates

theorem Fresh.accrue (h : r.Fresh) : r.accrue r.lastUpdateTimestamp = .ok r := by
  have hold : ¬ r.lastUpdateTimestamp < r.lastUpdateTimestamp := Int.lt_irrefl _
  have hbehind : requireNotBehind r.lastUpdateTimestamp r = .ok r := by
    rw [requireNotBehind, if_neg hold]
  have hliquidity : growLiquidityIndex r.lastUpdateTimestamp r = .ok r := by
    rw [growLiquidityIndex, if_neg fun hc => hold hc.1]
    rfl
  have hdebt : growDebtIndex r.lastUpdateTimestamp r = .ok r := by
    rw [growDebtIndex, if_neg fun hc => hold hc.1]
    rfl
  have hcredit : creditTreasury r.variableBorrowIndex r.lastUpdateTimestamp r = .ok r := by
    rw [creditTreasury, if_neg fun hc => hold hc.1]
    rfl
  have hderive : deriveRates r.lastUpdateTimestamp r = .ok r := by
    rw [deriveRates, h]
    rfl
  unfold Reserve.accrue accrualStages
  refine Stage.perform_cons_ok.2 ⟨_, hbehind, ?_⟩
  refine Stage.perform_cons_ok.2 ⟨_, hliquidity, ?_⟩
  refine Stage.perform_cons_ok.2 ⟨_, hdebt, ?_⟩
  refine Stage.perform_cons_ok.2 ⟨_, hcredit, ?_⟩
  exact Stage.perform_cons_ok.2 ⟨_, hderive, rfl⟩

theorem accrue_again (h : r.accrue now = .ok s) : s.accrue now = .ok s := by
  have hagain := (accrue_fresh h).accrue
  rwa [accrue_time h] at hagain

/-! ## Rounds -/

/-- `s` is `r` with other amounts of supply, debt and money. -/
def Dealt (r s : Reserve) : Prop :=
  s = { r with
    principalStableDebt := s.principalStableDebt
    averageStableRate := s.averageStableRate
    stableDebtTimestamp := s.stableDebtTimestamp
    scaledVariableDebt := s.scaledVariableDebt
    scaledTotalSupply := s.scaledTotalSupply
    availableLiquidity := s.availableLiquidity }

theorem Dealt.refl (r : Reserve) : Dealt r r := rfl

theorem Dealt.trans (h : Dealt r s) (h' : Dealt s t) : Dealt r t := by
  unfold Dealt at h h' ⊢
  rw [h] at h'
  exact h'

theorem Moved.dealt {loans : Prop} {p : Position} {rp : WithPosition} (h : Moved loans r p rp) :
    Dealt r rp.1 := by
  cases h <;> rfl

/-- An accrual, some business, and an accrual at the same time. -/
def Round (now : Int) (r s : Reserve) : Prop :=
  ∃ t u, r.accrue now = .ok t ∧ Dealt t u ∧ u.accrue now = .ok s

/-- What one operation can make of a reserve: a round, the credit to the treasury, other flags, or
another setting of a governed strategy. -/
inductive Proceeds (now : Int) (r : Reserve) : Reserve → Prop
  | round {s : Reserve} (h : Round now r s) : Proceeds now r s
  | settled : Proceeds now r { r with accruedToTreasury := 0 }
  | flagged (active frozen paused : Bool) : Proceeds now r { r with active, frozen, paused }
  | governed {setting : GovernedSetting} {caller : String} {value : Int} {strategy : RateStrategy}
      (h : r.strategy.set setting caller value = .ok strategy) : Proceeds now r { r with strategy }

/-- Kinked strategies have no settings, so their rates stay those of the stored state. -/
theorem Proceeds.fresh (h : Proceeds now r s) (hr : ∀ k, r.strategy = .kinked k → r.Fresh) :
    ∀ k, s.strategy = .kinked k → s.Fresh := by
  intro k hk
  cases h with
  | round h =>
    obtain ⟨_, _, _, _, hs⟩ := h
    exact accrue_fresh hs
  | settled => exact hr k hk
  | flagged => exact hr k hk
  | governed h =>
    cases hstrategy : r.strategy with
    | kinked =>
      rw [hstrategy] at h
      cases h
    | governed g =>
      rw [hstrategy] at h
      obtain ⟨_, _, rfl⟩ := map_ok_iff.1 h
      cases hk

/-! ## Indices -/

/-- A reserve that grows: no rate is negative, now or after an accrual. -/
structure Growing (now : Int) (r : Reserve) : Prop extends Running now r where
  borrowRate : 0 ≤ r.currentVariableBorrowRate
  strategy : r.strategy.Lawful

theorem Growing.later (h : Growing now r) {later : Int} (hle : now ≤ later) : Growing later r :=
  ⟨h.toRunning.later hle, h.borrowRate, h.strategy⟩

theorem Running.normalizedIncome_eq (h : Running now r) :
    r.normalizedIncome now = .ok (r.nextLiquidityIndex now) := by
  unfold normalizedIncome nextLiquidityIndex
  split
  · have hnow : now - r.lastUpdateTimestamp = 0 := by
      have := h.updated
      omega
    rw [hnow, linearAfter, Int.mul_zero, Int.zero_ediv, Int.zero_add, rayRound_one]
    rfl
  · have hfactor := ray_le_linearAfter h.rate h.elapsed_nonneg
    rw [linearFactor_ok h.rate h.updated, ok_bind]
    exact mulChecked_ok _ _ (nonneg_of_ray_le hfactor) h.income

theorem Running.normalizedDebt_eq (h : Running now r) (hrate : 0 ≤ r.currentVariableBorrowRate) :
    r.normalizedDebt now = .ok (mulRound ray halfRay
      (compoundAfter r.currentVariableBorrowRate (now - r.lastUpdateTimestamp))
      r.variableBorrowIndex) := by
  unfold normalizedDebt
  split
  · have hnow : now - r.lastUpdateTimestamp = 0 := by
      have := h.updated
      omega
    rw [hnow, compoundAfter_zero, rayRound_one]
    rfl
  · have hfactor := ray_le_compoundAfter hrate h.elapsed_nonneg
    rw [compoundedFactor_ok hrate h.updated, ok_bind]
    exact mulChecked_ok _ _ (nonneg_of_ray_le hfactor) h.debt

theorem Growing.normalizedDebt_eq (h : Growing now r) (hdebt : 0 < r.scaledVariableDebt) :
    r.normalizedDebt now = .ok (r.nextDebtIndex now) := by
  rw [nextDebtIndex, if_pos hdebt]
  exact h.toRunning.normalizedDebt_eq h.borrowRate

theorem nextIndices_updated (h : r.lastUpdateTimestamp = now) :
    r.nextLiquidityIndex now = r.liquidityIndex ∧ r.nextDebtIndex now = r.variableBorrowIndex := by
  unfold nextLiquidityIndex nextDebtIndex
  rw [h, Int.sub_self, linearAfter, Int.mul_zero, Int.zero_ediv, Int.zero_add, rayRound_one,
    compoundAfter_zero, rayRound_one]
  exact ⟨rfl, ite_self _⟩

theorem growDebtIndex_none (hnone : ¬ 0 < r.scaledVariableDebt) (h : growDebtIndex now r = .ok s) :
    s = r := by
  rw [growDebtIndex, if_neg fun hc => hnone hc.2] at h
  exact (pure_ok_iff.1 h).symm

theorem Running.debtIndex_stands (hr : Running now r) (hnone : ¬ 0 < r.scaledVariableDebt)
    (h : r.accrue now = .ok s) : s.variableBorrowIndex = r.variableBorrowIndex := by
  obtain ⟨r₁, r₂, r₃, r₄, -, h₁, h₂, h₃, h₄, rfl⟩ := accrue_stages h
  have e₁ := (growLiquidityIndex_income hr h₁).1
  have hnone₁ : ¬ 0 < r₁.scaledVariableDebt := by rwa [e₁]
  obtain rfl := growDebtIndex_none hnone₁ h₂
  have e₃ := creditTreasury_eq h₃
  simp only [deriveRates, bind_ok_iff, pure_ok_iff] at h₄
  obtain ⟨_, _, rfl⟩ := h₄
  dsimp only
  rw [e₃, e₁]

theorem Growing.accrue_indices (hr : Growing now r) (h : r.accrue now = .ok s) :
    s.liquidityIndex = r.nextLiquidityIndex now ∧ s.variableBorrowIndex = r.nextDebtIndex now := by
  have hupdated := hr.toRunning.updated_of_accrue h
  have hincome := hupdated.income
  rw [hr.toRunning.normalizedIncome_eq, Except.ok.injEq] at hincome
  refine ⟨hincome.symm, ?_⟩
  by_cases hdebt : 0 < r.scaledVariableDebt
  · have hprojected := hupdated.debt hdebt
    rw [hr.normalizedDebt_eq hdebt, Except.ok.injEq] at hprojected
    exact hprojected.symm
  · rw [nextDebtIndex, if_neg hdebt]
    exact hr.toRunning.debtIndex_stands hdebt h

theorem Growing.accrue (hr : Growing now r) (h : r.accrue now = .ok s) : Growing now s := by
  have hupdated := hr.toRunning.updated_of_accrue h
  refine ⟨hupdated.running, ?_, hupdated.strategy ▸ hr.strategy⟩
  have hrates := accrue_fresh h
  simp only [Fresh, derivedRates, bind_ok_iff] at hrates
  obtain ⟨_, _, _, _, hrates⟩ := hrates
  have hlawful : s.strategy.Lawful := hupdated.strategy ▸ hr.strategy
  exact hlawful.variableRate_nonneg hrates

theorem Dealt.growing (h : Dealt r s) (hr : Growing now r) : Growing now s := by
  unfold Dealt at h
  rw [h]
  exact ⟨⟨hr.rate, hr.income, hr.debt, hr.updated⟩, hr.borrowRate, hr.strategy⟩

/-- `s` has taken over from `r` at a time: it grows as well, no index has fallen, and what the
indices would be at that time is as it was. -/
structure Continues (now : Int) (r s : Reserve) : Prop where
  growing : Growing now s
  income_le : r.liquidityIndex ≤ s.liquidityIndex
  debt_le : r.variableBorrowIndex ≤ s.variableBorrowIndex
  nextIncome : s.nextLiquidityIndex now = r.nextLiquidityIndex now
  nextDebt : s.nextDebtIndex now = r.nextDebtIndex now

theorem Continues.refl (h : Growing now r) : Continues now r r :=
  ⟨h, Int.le_refl _, Int.le_refl _, rfl, rfl⟩

theorem Continues.trans (h : Continues now r s) (h' : Continues now s t) : Continues now r t where
  growing := h'.growing
  income_le := Int.le_trans h.income_le h'.income_le
  debt_le := Int.le_trans h.debt_le h'.debt_le
  nextIncome := h'.nextIncome.trans h.nextIncome
  nextDebt := h'.nextDebt.trans h.nextDebt

theorem Growing.continues_accrue (hr : Growing now r) (h : r.accrue now = .ok s) :
    Continues now r s := by
  obtain ⟨hincome, hdebt⟩ := hr.accrue_indices h
  obtain ⟨hliquidity, hvariable⟩ := nextIndices_updated (accrue_time h)
  obtain ⟨hincome_le, hdebt_le⟩ := hr.toRunning.indices_le h
  exact ⟨hr.accrue h, hincome_le, hdebt_le, hliquidity.trans hincome, hvariable.trans hdebt⟩

/-- As soon as the indices are up to date, no business changes the next ones. -/
theorem Dealt.continues (h : Dealt r s) (hr : Growing now r) (hnow : r.lastUpdateTimestamp = now) :
    Continues now r s := by
  have hgrowing := h.growing hr
  unfold Dealt at h
  have htime : s.lastUpdateTimestamp = now := by rw [h, hnow]
  obtain ⟨hr₁, hr₂⟩ := nextIndices_updated hnow
  obtain ⟨hs₁, hs₂⟩ := nextIndices_updated htime
  have hincome : s.liquidityIndex = r.liquidityIndex := by rw [h]
  have hdebt : s.variableBorrowIndex = r.variableBorrowIndex := by rw [h]
  exact ⟨hgrowing, Int.le_of_eq hincome.symm, Int.le_of_eq hdebt.symm, by rw [hs₁, hr₁, hincome],
    by rw [hs₂, hr₂, hdebt]⟩

theorem Round.continues (h : Round now r s) (hr : Growing now r) : Continues now r s := by
  obtain ⟨t, u, ht, hdealt, hs⟩ := h
  have hfirst := hr.continues_accrue ht
  have hbusiness := hdealt.continues hfirst.growing (accrue_time ht)
  exact (hfirst.trans hbusiness).trans (hbusiness.growing.continues_accrue hs)

theorem Proceeds.continues (h : Proceeds now r s) (hr : Growing now r) : Continues now r s := by
  have hrunning := hr.toRunning
  cases h with
  | round h => exact h.continues hr
  | settled | flagged =>
    refine ⟨⟨?_, hr.borrowRate, hr.strategy⟩, Int.le_refl _, Int.le_refl _, rfl, rfl⟩
    exact ⟨hrunning.rate, hrunning.income, hrunning.debt, hrunning.updated⟩
  | governed h =>
    refine ⟨⟨?_, hr.borrowRate, hr.strategy.set h⟩, Int.le_refl _, Int.le_refl _, rfl, rfl⟩
    exact ⟨hrunning.rate, hrunning.income, hrunning.debt, hrunning.updated⟩

theorem Growing.nextIndices_nonneg (hr : Growing now r) :
    0 ≤ r.nextLiquidityIndex now ∧ 0 ≤ r.nextDebtIndex now := by
  have hlinear := ray_le_linearAfter hr.rate hr.elapsed_nonneg
  have hcompound := ray_le_compoundAfter hr.borrowRate hr.elapsed_nonneg
  constructor
  · exact rayRound_nonneg (nonneg_of_ray_le hlinear) hr.income
  · unfold nextDebtIndex
    split
    · exact rayRound_nonneg (nonneg_of_ray_le hcompound) hr.debt
    · exact hr.debt

theorem Growing.nextIndices_mono (hr : Growing now r) {later : Int} (hle : now ≤ later) :
    r.nextLiquidityIndex now ≤ r.nextLiquidityIndex later ∧
      r.nextDebtIndex now ≤ r.nextDebtIndex later := by
  have hupdated := hr.updated
  have helapsed : now - r.lastUpdateTimestamp ≤ later - r.lastUpdateTimestamp := by omega
  constructor
  · unfold nextLiquidityIndex
    rw [mulRound_comm _ _ _ r.liquidityIndex, mulRound_comm _ _ _ r.liquidityIndex]
    exact rayRound_mono hr.income (linearAfter_mono hr.rate helapsed)
  · unfold nextDebtIndex
    split
    · rw [mulRound_comm _ _ _ r.variableBorrowIndex, mulRound_comm _ _ _ r.variableBorrowIndex]
      exact rayRound_mono hr.debt (compoundAfter_mono hr.borrowRate (Int.le_refl _) (by omega) helapsed)
    · exact Int.le_refl _

end MoneyMarket.Reserve
