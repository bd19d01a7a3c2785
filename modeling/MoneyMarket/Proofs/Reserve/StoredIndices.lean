import MoneyMarket.Proofs.Reserve.Backing
import MoneyMarket.Proofs.Reserve.Round

/-!
# Projected and stored indices

A projection asks for the time alone, an accrual also for a supply rate and for variable debt. The
first makes no difference, since nothing grows at no rate. The second does: the debt index that is
projected for a reserve without variable debt is stored only if it has not grown. The debt is the
same either way, there being none.
-/

namespace MoneyMarket.Reserve

open MoneyMarket.FixedPoint MoneyMarket.Interest

variable {r s : Reserve} {now : Int}

/-- The projected debt index is the stored one exactly when no time has passed, when there is debt
to grow, or when the rate comes to nothing in a second. -/
theorem Running.projectedDebt_stored_iff (hr : Running now r)
    (hrate : 0 ≤ r.currentVariableBorrowRate) (hindex : ray ≤ r.variableBorrowIndex)
    (h : r.accrue now = .ok s) :
    r.normalizedDebt now = .ok s.variableBorrowIndex ↔
      now = r.lastUpdateTimestamp ∨ 0 < r.scaledVariableDebt ∨
        r.currentVariableBorrowRate < secondsPerYear := by
  by_cases hdebt : 0 < r.scaledVariableDebt
  · exact iff_of_true ((hr.updated_of_accrue h).debt hdebt) (.inr (.inl hdebt))
  · rw [hr.debtIndex_stands hdebt h, hr.normalizedDebt_eq hrate, Except.ok.injEq,
      rayRound_eq_self_iff (ray_le_compoundAfter hrate hr.elapsed_nonneg) hindex,
      compoundAfter_eq_ray_iff hrate hr.elapsed_nonneg, Int.sub_eq_zero, or_iff_right hdebt]

theorem Running.debtIndex_le_projected (hr : Running now r)
    (hrate : 0 ≤ r.currentVariableBorrowRate) (h : r.accrue now = .ok s) :
    s.variableBorrowIndex ≤ mulRound ray halfRay
      (compoundAfter r.currentVariableBorrowRate (now - r.lastUpdateTimestamp))
      r.variableBorrowIndex := by
  by_cases hdebt : 0 < r.scaledVariableDebt
  · have hprojected := (hr.updated_of_accrue h).debt hdebt
    rw [hr.normalizedDebt_eq hrate, Except.ok.injEq] at hprojected
    exact Int.le_of_eq hprojected.symm
  · rw [hr.debtIndex_stands hdebt h, mulRound_comm]
    exact le_rayRound hr.debt (ray_le_compoundAfter hrate hr.elapsed_nonneg)

theorem Running.variableDebt_stored (hr : Running now r)
    (hrate : 0 ≤ r.currentVariableBorrowRate) (h : r.accrue now = .ok s) :
    ∃ debt, r.variableDebt now = .ok debt ∧ s.storedVariableDebt = .ok debt := by
  have hupdated := hr.updated_of_accrue h
  have hrates := accrue_fresh h
  simp only [Fresh, derivedRates, bind_ok_iff] at hrates
  obtain ⟨_, _, debt, hstored, _⟩ := hrates
  refine ⟨debt, ?_, hstored⟩
  rw [storedVariableDebt, hupdated.scaledVariableDebt] at hstored
  by_cases hdebt : 0 < r.scaledVariableDebt
  · rw [variableDebt, hupdated.debt hdebt, ok_bind, hstored]
  · obtain ⟨hscaled, -, rfl⟩ := rayMul_ok_iff.1 hstored
    have hnone : r.scaledVariableDebt = 0 := by omega
    have hprojected := hr.normalizedDebt_eq hrate
    have hfactor := ray_le_compoundAfter hrate hr.elapsed_nonneg
    have hindex := rayRound_nonneg (nonneg_of_ray_le hfactor) hr.debt
    rw [variableDebt, hprojected, ok_bind, rayMul, mulChecked_ok _ _ hscaled hindex, hnone,
      rayRound_zero, rayRound_zero]

/-- **Accruals store what is projected**, except for the debt index of a reserve without variable
debt: that stands, and the projection is ahead of it as soon as it grows. The debt that is shown is
stored in any case. -/
theorem accrue_stores_projections (hincomeRate : 0 ≤ r.currentLiquidityRate)
    (hdebtRate : 0 ≤ r.currentVariableBorrowRate) (hincome : ray ≤ r.liquidityIndex)
    (hdebt : ray ≤ r.variableBorrowIndex) (h : r.accrue now = .ok s) :
    r.normalizedIncome now = .ok s.liquidityIndex ∧
    (∃ index, r.normalizedDebt now = .ok index ∧ s.variableBorrowIndex ≤ index ∧
      (index = s.variableBorrowIndex ↔
        now = r.lastUpdateTimestamp ∨ 0 < r.scaledVariableDebt ∨
          r.currentVariableBorrowRate < secondsPerYear)) ∧
    (¬ 0 < r.scaledVariableDebt → s.variableBorrowIndex = r.variableBorrowIndex) ∧
    ∃ debt, r.variableDebt now = .ok debt ∧ s.storedVariableDebt = .ok debt := by
  obtain ⟨_, _, _, _, hnow, -⟩ := accrue_stages h
  have hr : Running now r := by
    constructor
    · exact hincomeRate
    · exact nonneg_of_ray_le hincome
    · exact nonneg_of_ray_le hdebt
    · exact hnow
  refine ⟨(hr.updated_of_accrue h).income, ?_, fun hnone => hr.debtIndex_stands hnone h,
    hr.variableDebt_stored hdebtRate h⟩
  have hstored := hr.projectedDebt_stored_iff hdebtRate hdebt h
  have hprojected := hr.normalizedDebt_eq hdebtRate
  rw [hprojected, Except.ok.injEq] at hstored
  exact ⟨_, hprojected, hr.debtIndex_le_projected hdebtRate h, hstored⟩

theorem lentAtTheKink_stores_projections : ∃ s, lentAtTheKink.accrue secondsPerYear = .ok s ∧
    lentAtTheKink.normalizedIncome secondsPerYear = .ok s.liquidityIndex ∧
    lentAtTheKink.normalizedDebt secondsPerYear = .ok s.variableBorrowIndex ∧
    ∃ debt, lentAtTheKink.variableDebt secondsPerYear = .ok debt ∧
      s.storedVariableDebt = .ok debt := by
  have haccrues : (lentAtTheKink.accrue secondsPerYear).toOption.isSome := by decide +kernel
  cases h : lentAtTheKink.accrue secondsPerYear with
  | error fault =>
    rw [h] at haccrues
    cases haccrues
  | ok s =>
    obtain ⟨hincome, ⟨_, hdebt, -, hstored⟩, -, hshown⟩ :=
      accrue_stores_projections (by decide) (by decide) (by decide) (by decide) h
    rw [hstored.2 (.inr (.inl (by decide)))] at hdebt
    exact ⟨s, rfl, hincome, hdebt, hshown⟩

def unlent : Reserve where
  asset := .text "USDC"
  config := .usdc
  strategy := .kinked ⟨.stableThree, by decide, by decide⟩
  currentVariableBorrowRate := 50000000000000000000000000
  currentStableBorrowRate := 39000000000000000000000000
  scaledTotalSupply := 1000000
  availableLiquidity := 1000000

/-- After a year without debt the projected index has grown, and the stored one has not. -/
theorem unlent_index_not_stored :
    0 ≤ unlent.currentLiquidityRate ∧ 0 ≤ unlent.currentVariableBorrowRate ∧
    ray ≤ unlent.liquidityIndex ∧ ray ≤ unlent.variableBorrowIndex ∧
    unlent.lastUpdateTimestamp ≤ secondsPerYear ∧
    ∃ s, unlent.accrue secondsPerYear = .ok s ∧ s.variableBorrowIndex = ray ∧
      unlent.normalizedDebt secondsPerYear ≠ .ok s.variableBorrowIndex := by
  refine ⟨by decide, by decide, by decide, by decide, by decide, ?_⟩
  have hahead : unlent.normalizedDebt secondsPerYear = .ok 1051270908731986166777656000 := rfl
  refine ⟨{ unlent with lastUpdateTimestamp := secondsPerYear }, rfl, rfl, ?_⟩
  rw [hahead, Ne, Except.ok.injEq]
  decide

end MoneyMarket.Reserve
