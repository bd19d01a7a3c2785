import MoneyMarket.Proofs.Interest
import MoneyMarket.Proofs.Rates
import MoneyMarket.Proofs.Reserve.Effect

/-!
# Projections and accruals

What a reserve projects for a time is what an accrual at that time stores. The indices that an
accrual leaves as they are, for want of a supply rate or of variable debt, are no exception: at no
rate the projection stands, too, and without debt nobody reads it.
-/

namespace MoneyMarket.Reserve

open MoneyMarket.FixedPoint MoneyMarket.Interest

variable {r s : Reserve} {now : Int}

/-- The reserve was last brought up to a time that has come. -/
structure Running (now : Int) (r : Reserve) : Prop where
  rate : 0 ≤ r.currentLiquidityRate
  income : 0 ≤ r.liquidityIndex
  debt : 0 ≤ r.variableBorrowIndex
  updated : r.lastUpdateTimestamp ≤ now

theorem Running.later (h : Running now r) {later : Int} (hle : now ≤ later) : Running later r :=
  ⟨h.rate, h.income, h.debt, Int.le_trans h.updated hle⟩

theorem Running.elapsed_nonneg (h : Running now r) : 0 ≤ now - r.lastUpdateTimestamp :=
  Int.sub_nonneg_of_le h.updated

theorem Moved.running {loans : Prop} {p : Position} {rp : WithPosition} (h : Moved loans r p rp)
    (hr : Running now r) : Running now rp.1 := by
  cases h <;> exact ⟨hr.rate, hr.income, hr.debt, hr.updated⟩

theorem Moved.config {loans : Prop} {p : Position} {rp : WithPosition} (h : Moved loans r p rp) :
    rp.1.config = r.config := by
  cases h <;> rfl

/-! ## At the time of the last update -/

theorem normalizedIncome_updated (h : r.lastUpdateTimestamp = now) :
    r.normalizedIncome now = .ok r.liquidityIndex := by
  rw [normalizedIncome, if_pos (Int.le_of_eq h.symm)]
  rfl

theorem normalizedDebt_updated (h : r.lastUpdateTimestamp = now) :
    r.normalizedDebt now = .ok r.variableBorrowIndex := by
  rw [normalizedDebt, if_pos (Int.le_of_eq h.symm)]
  rfl

/-! ## Growing indices -/

theorem growLiquidityIndex_income (hr : Running now r) (h : growLiquidityIndex now r = .ok s) :
    s = { r with liquidityIndex := s.liquidityIndex } ∧
      r.normalizedIncome now = .ok s.liquidityIndex ∧ 0 ≤ s.liquidityIndex := by
  unfold growLiquidityIndex at h
  split at h
  · rename_i hgrows
    simp only [bind_ok_iff, pure_ok_iff] at h
    obtain ⟨factor, hfactor, index, hindex, rfl⟩ := h
    refine ⟨rfl, ?_, rayMul_nonneg hindex⟩
    rw [normalizedIncome, if_neg (by omega), hfactor, ok_bind, hindex]
  · rename_i hstands
    cases h
    refine ⟨rfl, ?_, hr.income⟩
    unfold normalizedIncome
    split
    · rfl
    · -- the time has come, so it is the rate that is zero
      rename_i hpast
      have hrate : r.currentLiquidityRate = 0 := by
        have := hr.rate
        omega
      rw [linearFactor_ok hr.rate (by omega), ok_bind, hrate, linearAfter_zero, rayMul,
        mulChecked_ok _ _ (Int.le_of_lt ray_pos) hr.income, rayRound_one]

theorem growDebtIndex_debt (h : growDebtIndex now r = .ok s) :
    s = { r with variableBorrowIndex := s.variableBorrowIndex } ∧
      (0 < r.scaledVariableDebt → r.normalizedDebt now = .ok s.variableBorrowIndex) ∧
      (r.lastUpdateTimestamp = now → s.variableBorrowIndex = r.variableBorrowIndex) := by
  unfold growDebtIndex at h
  split at h
  · rename_i hgrows
    simp only [bind_ok_iff, pure_ok_iff] at h
    obtain ⟨factor, hfactor, index, hindex, rfl⟩ := h
    refine ⟨rfl, fun _ => ?_, fun hnow => by omega⟩
    rw [normalizedDebt, if_neg (by omega), hfactor, ok_bind, hindex]
  · rename_i hstands
    cases h
    refine ⟨rfl, fun hdebt => ?_, fun _ => rfl⟩
    rw [normalizedDebt, if_pos (by omega)]
    rfl

theorem growLiquidityIndex_le (hr : Running now r) (h : growLiquidityIndex now r = .ok s) :
    r.liquidityIndex ≤ s.liquidityIndex := by
  unfold growLiquidityIndex at h
  split at h
  · rename_i hgrows
    rw [linearFactor_ok hr.rate hr.updated, ok_bind] at h
    simp only [bind_ok_iff, rayMul_ok_iff, pure_ok_iff] at h
    obtain ⟨_, ⟨_, _, rfl⟩, rfl⟩ := h
    dsimp only
    rw [mulRound_comm]
    exact le_rayRound hr.income (ray_le_linearAfter hr.rate (by omega))
  · cases h
    exact Int.le_refl _

theorem growDebtIndex_le (h : growDebtIndex now r = .ok s) :
    r.variableBorrowIndex ≤ s.variableBorrowIndex := by
  unfold growDebtIndex at h
  split at h
  · simp only [bind_ok_iff, compoundedFactor_ok_iff, rayMul_ok_iff, pure_ok_iff] at h
    obtain ⟨_, ⟨hrate, hlast, rfl⟩, _, ⟨_, hindex, rfl⟩, rfl⟩ := h
    dsimp only
    rw [mulRound_comm]
    exact le_rayRound hindex (ray_le_compoundAfter hrate (by omega))
  · cases h
    exact Int.le_refl _

theorem creditTreasury_eq {index : Int} (h : creditTreasury index now r = .ok s) :
    s = { r with
      accruedToTreasury := s.accruedToTreasury
      scaledTotalSupply := s.scaledTotalSupply } := by
  unfold creditTreasury at h
  split at h
  · simp only [bind_ok_iff] at h
    obtain ⟨_, _, share, _, h⟩ := h
    split at h
    · simp only [bind_ok_iff, pure_ok_iff] at h
      obtain ⟨_, _, rfl⟩ := h
      rfl
    · cases h
      rfl
  · cases h
    rfl

/-! ## Accruals -/

/-- `s` is `r` brought up to a time: it stores what `r` projects for it. -/
structure Updated (now : Int) (r s : Reserve) : Prop extends Accrued r s where
  time : s.lastUpdateTimestamp = now
  income : r.normalizedIncome now = .ok s.liquidityIndex
  debt : 0 < r.scaledVariableDebt → r.normalizedDebt now = .ok s.variableBorrowIndex
  stands : r.lastUpdateTimestamp = now → s.variableBorrowIndex = r.variableBorrowIndex
  running : Running now s
  liquidity : 0 ≤ s.availableLiquidity

theorem storedVariableDebt_index {debt : Int} (h : r.storedVariableDebt = .ok debt) :
    0 ≤ r.variableBorrowIndex := (rayMul_ok_iff.1 h).2.1

theorem Running.updated_of_accrue (hr : Running now r) (h : r.accrue now = .ok s) :
    Updated now r s := by
  have haccrued := accrue_accrued h
  obtain ⟨r₁, r₂, r₃, r₄, -, h₁, h₂, h₃, h₄, rfl⟩ := accrue_stages h
  obtain ⟨e₁, hincome, hindex⟩ := growLiquidityIndex_income hr h₁
  obtain ⟨e₂, hdebt, hstands⟩ := growDebtIndex_debt h₂
  have e₃ := creditTreasury_eq h₃
  simp only [deriveRates, derivedRates, bind_ok_iff, pure_ok_iff] at h₄
  obtain ⟨rates, ⟨stable, hstable, stored, hstored, hrates⟩, rfl⟩ := h₄
  obtain ⟨hinput, hrate⟩ := RateStrategy.rates_input hrates
  have hliquidity : 0 ≤ r₃.availableLiquidity := hinput.1
  have hborrow := storedVariableDebt_index hstored
  have hsupply : r₃.liquidityIndex = r₁.liquidityIndex := by rw [e₃, e₂]
  have hvariable : r₃.variableBorrowIndex = r₂.variableBorrowIndex := by rw [e₃]
  rw [e₁] at hdebt hstands
  constructor
  · exact haccrued
  · rfl
  · rw [hincome]
    exact congrArg _ hsupply.symm
  · intro hpos
    exact (hdebt hpos).trans (congrArg _ hvariable.symm)
  · intro hnow
    exact hvariable.trans (hstands hnow)
  · exact ⟨hrate, hsupply ▸ hindex, hborrow, Int.le_refl _⟩
  · exact hliquidity

theorem Running.indices_le (hr : Running now r) (h : r.accrue now = .ok s) :
    r.liquidityIndex ≤ s.liquidityIndex ∧ r.variableBorrowIndex ≤ s.variableBorrowIndex := by
  obtain ⟨r₁, r₂, r₃, r₄, -, h₁, h₂, h₃, h₄, rfl⟩ := accrue_stages h
  have hincome := growLiquidityIndex_le hr h₁
  have hdebt := growDebtIndex_le h₂
  have e₁ := (growLiquidityIndex_income hr h₁).1
  have e₂ := (growDebtIndex_debt h₂).1
  have e₃ := creditTreasury_eq h₃
  simp only [deriveRates, bind_ok_iff, pure_ok_iff] at h₄
  obtain ⟨_, _, rfl⟩ := h₄
  dsimp only
  rw [e₃]
  constructor
  · rwa [e₂]
  · rwa [e₁] at hdebt

theorem Updated.liquidityIndex_eq (h : Updated now r s) (hnow : r.lastUpdateTimestamp = now) :
    s.liquidityIndex = r.liquidityIndex := by
  have hincome := h.income
  rw [normalizedIncome_updated hnow, Except.ok.injEq] at hincome
  exact hincome.symm

/-! ## Balances -/

/-- A position shows the same balances in both states of its reserve. -/
structure Alike (now : Int) (pos : Position) (r s : Reserve) : Prop where
  config : s.config = r.config
  supply : pos.supplyBalance s now = pos.supplyBalance r now
  debt : pos.variableDebt s now = pos.variableDebt r now

variable {pos : Position} {t : Reserve}

theorem Alike.refl (r : Reserve) : Alike now pos r r := ⟨rfl, rfl, rfl⟩

theorem Alike.trans (h : Alike now pos r s) (h' : Alike now pos s t) : Alike now pos r t :=
  ⟨h'.config.trans h.config, h'.supply.trans h.supply, h'.debt.trans h.debt⟩

theorem Alike.of_projections (hconfig : s.config = r.config)
    (hincome : s.normalizedIncome now = r.normalizedIncome now)
    (hdebt : s.normalizedDebt now = r.normalizedDebt now) : Alike now pos r s := by
  refine ⟨hconfig, ?_, ?_⟩
  · simp only [Position.supplyBalance, hincome]
  · simp only [Position.variableDebt, hdebt]

theorem Alike.of_stored (hconfig : s.config = r.config) (htime : s.lastUpdateTimestamp = now)
    (hincome : r.normalizedIncome now = .ok s.liquidityIndex)
    (hdebt : pos.scaledVariableDebt ≠ 0 → r.normalizedDebt now = .ok s.variableBorrowIndex) :
    Alike now pos r s := by
  refine ⟨hconfig, ?_, ?_⟩
  · simp only [Position.supplyBalance, normalizedIncome_updated htime, hincome]
  · unfold Position.variableDebt
    split
    · rfl
    · rename_i howes
      rw [normalizedDebt_updated htime, hdebt howes]

/-- An accrual changes no balance, as long as the reserve counts the debt of the position. -/
theorem Updated.alike (h : Updated now r s)
    (hcounted : pos.scaledVariableDebt ≠ 0 → 0 < r.scaledVariableDebt) : Alike now pos r s :=
  .of_stored h.config h.time h.income fun howes => h.debt (hcounted howes)

theorem Moved.alike {loans : Prop} {p : Position} {rp : WithPosition} (h : Moved loans r p rp) :
    Alike now pos r rp.1 := by
  cases h <;> exact .of_projections rfl rfl rfl

end MoneyMarket.Reserve
