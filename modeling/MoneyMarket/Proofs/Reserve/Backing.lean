import MoneyMarket.Proofs.Reserve.Accrual

/-!
# Backing of supplier claims

What suppliers and the treasury may claim of a reserve is its money and what it is owed. An accrual
under the kinked strategy keeps it so, up to a slack that is one of rounding: claims grow linearly
at the supply rate, debts compound at the borrow rate by the second.
-/

namespace MoneyMarket.Reserve

open MoneyMarket.FixedPoint MoneyMarket.Interest

variable {r : Reserve} {k : Kinked} {now : Int}

/-! ## Growth of claims -/

theorem claims_grown_le {supply index total factor : Int} (hbacked : supply * index ≤ ray * total)
    (htotal : 0 ≤ total) (hindex : ray ≤ index) (hfactor : ray ≤ factor) :
    (supply * mulRound ray halfRay factor index : ℚ) ≤ total * factor + total / 2 := by
  have hnext : (0 : ℚ) ≤ mulRound ray halfRay factor index := by
    exact_mod_cast rayRound_nonneg (nonneg_of_ray_le hfactor) (nonneg_of_ray_le hindex)
  have hround := rayRound_le factor index
  have htotal' : (0 : ℚ) ≤ total := by exact_mod_cast htotal
  have hfactor' : (0 : ℚ) ≤ factor := by
    exact_mod_cast nonneg_of_ray_le hfactor
  have hright : (0 : ℚ) ≤ total * factor + total / 2 := by positivity
  rcases Int.lt_or_le supply 0 with hneg | hpos
  · have hsupply : (supply : ℚ) ≤ 0 := by exact_mod_cast Int.le_of_lt hneg
    exact le_trans (mul_nonpos_of_nonpos_of_nonneg hsupply hnext) hright
  · have hbacked' : (supply * index : ℚ) ≤ 10 ^ 27 * total := by
      have : ((supply * index : Int) : ℚ) ≤ ((ray * total : Int) : ℚ) := by exact_mod_cast hbacked
      push_cast [cast_ray] at this
      exact this
    have hsupply : (0 : ℚ) ≤ supply := by exact_mod_cast hpos
    have hindex' : (10 ^ 27 : ℚ) ≤ index := by
      rw [← cast_ray]
      exact_mod_cast hindex
    -- the index is at least one, so that the shares are no more than the claims
    have hshares : (supply : ℚ) ≤ total := by
      have := mul_le_mul_of_nonneg_left hindex' hsupply
      linarith
    rw [cast_ray] at hround
    have hgrown := mul_le_mul_of_nonneg_left hround hsupply
    have hfull := mul_le_mul_of_nonneg_right hbacked' hfactor'
    linarith

theorem treasuryShare_mul_le (growth factor : Int) {index : Int} (hindex : 0 < index) :
    (treasuryShare growth factor index * index : ℚ) ≤
      (growth * factor / 10000 + 1 / 2) * 10 ^ 27 + index / 2 := by
  have hshare := percentRound_le growth factor
  have hmint := divRound_mul_le ray hindex (mulRound whole halfWhole growth factor)
  rw [cast_whole] at hshare
  rw [cast_ray] at hmint
  unfold treasuryShare
  linarith

/-! ## Growth of debts -/

/-- A debt grows by its compounded interest, up to the roundings of index and debt. -/
theorem le_debt_grown (hscaled : 0 ≤ r.scaledVariableDebt) (hindex : ray ≤ r.variableBorrowIndex)
    (hrate : 0 ≤ r.currentVariableBorrowRate) (hnow : r.lastUpdateTimestamp ≤ now)
    {debt next factor : Int} (hdebt : r.debtAt r.variableBorrowIndex = debt)
    (hnext : r.debtAt (r.nextDebtIndex now) = next)
    (hfactor : compoundAfter r.currentVariableBorrowRate (now - r.lastUpdateTimestamp) = factor) :
    (debt * (factor - 10 ^ 27) - factor / 2 - debt / 2 - 10 ^ 27 / 2 : ℚ) ≤
      10 ^ 27 * (next - debt) := by
  have hpositive : (0 : ℚ) ≤ factor := by
    have := ray_le_compoundAfter hrate (show 0 ≤ now - r.lastUpdateTimestamp by omega)
    rw [hfactor] at this
    exact_mod_cast nonneg_of_ray_le this
  -- the index grows only where there is debt
  rcases Int.lt_or_eq_of_le hscaled with hpos | hzero
  · have hscaled' : (0 : ℚ) ≤ r.scaledVariableDebt := by exact_mod_cast hscaled
    have hshares : (r.scaledVariableDebt : ℚ) ≤ debt := by
      rw [← hdebt]
      exact_mod_cast le_rayRound hscaled hindex
    have hbefore := rayRound_le r.scaledVariableDebt r.variableBorrowIndex
    have hafter := (lt_rayRound r.scaledVariableDebt (r.nextDebtIndex now)).le
    have hgrown := (lt_rayRound factor r.variableBorrowIndex).le
    have hindex' : mulRound ray halfRay factor r.variableBorrowIndex = r.nextDebtIndex now := by
      rw [nextDebtIndex, if_pos hpos, hfactor]
    unfold debtAt at hdebt hnext
    rw [hdebt, cast_ray] at hbefore
    rw [hnext, cast_ray] at hafter
    rw [hindex', cast_ray] at hgrown
    have hscaledGrown := mul_le_mul_of_nonneg_left hgrown hscaled'
    have hdebtGrown := mul_le_mul_of_nonneg_left hbefore hpositive
    linarith
  · have hnone (index : Int) : r.debtAt index = 0 := by
      rw [debtAt, ← hzero, rayRound_zero]
    rw [← hdebt, ← hnext, hnone, hnone]
    push_cast
    linarith

/-! ## Claims and debts together -/

/-- What rounding may add to the claims in `seconds`: some units a second on each part of the money,
and half a unit of each factor and index. -/
def roundingSlack (total rate seconds factor index : ℚ) : ℚ :=
  (total + 10 ^ 11) * (seconds + 1) * (rate / 10 ^ 27 + 5) + (factor + index) / 2 + 10 ^ 27

theorem claims_le_of_growth {available debt next rate supplyRate seconds factor linear index kept
    claims share : ℚ}
    (ha : 0 ≤ available) (hd : 0 ≤ debt) (hv : 0 ≤ rate) (he : 0 ≤ seconds) (hf : 0 ≤ factor)
    (hkept : 0 ≤ kept) (hkept1 : kept ≤ 1)
    (hlinear : linear ≤ 10 ^ 27 + supplyRate * seconds / 31536000)
    (hsupply : (available + debt) * supplyRate ≤
      kept * (debt * rate) + 5 * 10 ^ 17 + (available + debt) * (2 + rate / 10 ^ 27))
    (hfactor : 10 ^ 27 + seconds * (rate / 31536000 - 1) ≤ factor)
    (hnext : debt * (factor - 10 ^ 27) - factor / 2 - debt / 2 - 10 ^ 27 / 2 ≤
      10 ^ 27 * (next - debt))
    (hclaims : claims ≤ (available + debt) * linear + (available + debt) / 2)
    (hshare : share ≤ ((next - debt) * (1 - kept) + 1 / 2) * 10 ^ 27 + index / 2) :
    claims + share ≤ 10 ^ 27 * (available + next) +
      roundingSlack (available + debt) rate seconds factor index := by
  have htotal : 0 ≤ available + debt := by linarith
  have hlinearAll := mul_le_mul_of_nonneg_left hlinear htotal
  have hsupplyAll := mul_le_mul_of_nonneg_right hsupply (show 0 ≤ seconds / 31536000 by positivity)
  -- the kept part of the borrowers' interest pays what suppliers are promised
  have hinterest := mul_le_mul_of_nonneg_left hfactor hd
  have hgrowth : debt * (seconds * (rate / 31536000 - 1)) - factor / 2 - debt / 2 - 10 ^ 27 / 2 ≤
      10 ^ 27 * (next - debt) := by linarith
  have hborne := mul_le_mul_of_nonneg_left hgrowth hkept
  have hloss : 0 ≤ (1 - kept) * (factor / 2 + debt / 2 + 10 ^ 27 / 2 + debt * seconds) :=
    mul_nonneg (by linarith) (by positivity)
  have hpaid : claims + share ≤ 10 ^ 27 * (available + next) +
      (5 * 10 ^ 17 + (available + debt) * (2 + rate / 10 ^ 27)) * (seconds / 31536000) +
      (available + debt) / 2 + debt * seconds + debt / 2 + (factor + index) / 2 + 10 ^ 27 := by
    linarith
  have hrounding : (5 * 10 ^ 17 + (available + debt) * (2 + rate / 10 ^ 27)) * (seconds / 31536000) +
      (available + debt) / 2 + debt * seconds + debt / 2 ≤
      (available + debt + 10 ^ 11) * (seconds + 1) * (rate / 10 ^ 27 + 5) := by
    have hmoney := mul_nonneg ha he
    have hdebts := mul_nonneg hd he
    have hrates := mul_nonneg htotal hv
    have hgrown := mul_nonneg hrates he
    have htimes := mul_nonneg hv he
    linarith
  unfold roundingSlack
  linarith

/-- What suppliers are promised a year on all money is what borrowers pay, less the factor. -/
theorem AtKinkedRates.liquidityRate_mul_le (h : r.AtKinkedRates k) :
    ((r.availableLiquidity : ℚ) + r.debtAt r.variableBorrowIndex) * r.currentLiquidityRate ≤
      (1 - r.config.reserveFactor / 10000) *
          (r.debtAt r.variableBorrowIndex * r.currentVariableBorrowRate) + 5 * 10 ^ 17 +
        (r.availableLiquidity + r.debtAt r.variableBorrowIndex) *
          (2 + r.currentVariableBorrowRate / 10 ^ 27) := by
  obtain ⟨_, hinput, hfactor, _⟩ := h.rates_input
  obtain ⟨hv, hq⟩ := h.rates_eq
  rw [hq]
  exact Kinked.supplyRate_mul_le hinput hfactor rfl hv

/-- **Backing.** Where the money and the variable debt cover the claims of suppliers and treasury,
they do so after an accrual, up to rounding. -/
theorem supplierClaims_backed (h : r.AtKinkedRates k) (hnow : r.lastUpdateTimestamp < now)
    {debt : Int} (hdebt : r.storedVariableDebt = .ok debt)
    (hbacked : r.scaledTotalSupply * r.liquidityIndex ≤ ray * (r.availableLiquidity + debt)) :
    ∃ s debt' factor, r.accrue now = .ok s ∧ s.storedVariableDebt = .ok debt' ∧
      compoundedFactor r.currentVariableBorrowRate r.lastUpdateTimestamp now = .ok factor ∧
      (s.scaledTotalSupply * s.liquidityIndex : ℚ) ≤
        10 ^ 27 * (r.availableLiquidity + debt') +
          roundingSlack (r.availableLiquidity + debt) r.currentVariableBorrowRate
            (now - r.lastUpdateTimestamp) factor s.liquidityIndex := by
  obtain ⟨hscaled, ⟨ha, _, hd, _, hf0⟩, hfactor, _⟩ := h.rates_input
  have hv := h.rates_eq.1
  obtain ⟨rates, hok⟩ := h.accrue_ok hnow
  obtain ⟨-, hvi, rfl⟩ := storedVariableDebt_ok_iff.1 hdebt
  have hseconds : 0 ≤ now - r.lastUpdateTimestamp := by omega
  have hcompound := ray_le_compoundAfter hv hseconds
  have hnext := Int.le_trans hvi (le_nextDebtIndex hnow hv hvi)
  refine ⟨_, r.debtAt (r.nextDebtIndex now), _, hok,
    storedVariableDebt_ok_iff.2 ⟨hscaled, hnext, rfl⟩, compoundedFactor_ok hv (Int.le_of_lt hnow), ?_⟩
  show (((r.scaledTotalSupply + treasuryShare
      (r.debtAt (r.nextDebtIndex now) - r.debtAt r.variableBorrowIndex) r.config.reserveFactor
        (r.nextLiquidityIndex now) : Int) : ℚ) * r.nextLiquidityIndex now) ≤ _
  have hli := h.ray_le_liquidityIndex
  have hlinear := ray_le_linearAfter h.liquidityRate_nonneg hseconds
  have hclaims := claims_grown_le hbacked (Int.add_nonneg ha hd) hli hlinear
  have hindex : 0 < r.nextLiquidityIndex now :=
    Int.lt_of_lt_of_le ray_pos (le_nextLiquidityIndex hnow h.liquidityRate_nonneg hli)
  have hshare := treasuryShare_mul_le
    (r.debtAt (r.nextDebtIndex now) - r.debtAt r.variableBorrowIndex) r.config.reserveFactor hindex
  have hsupply := h.liquidityRate_mul_le
  have hnext := le_debt_grown hscaled h.ray_le_debtIndex hv (Int.le_of_lt hnow) rfl rfl rfl
  have hyear := le_compoundAfter_yearly hv hseconds
  have hsupplied := linearAfter_le r.currentLiquidityRate (now - r.lastUpdateTimestamp)
  -- only the two debts matter from here on, not the shares that they are read off
  generalize hdebt' : r.debtAt (r.nextDebtIndex now) = debt' at *
  generalize hdebt : r.debtAt r.variableBorrowIndex = debt at *
  have hfactor' : (r.config.reserveFactor : ℚ) ≤ 10000 := by
    rw [← cast_whole]
    exact_mod_cast hfactor
  have hfactor0 : (0 : ℚ) ≤ r.config.reserveFactor := by exact_mod_cast hf0
  rw [cast_ray, cast_secondsPerYear] at hsupplied
  rw [cast_ray, cast_secondsPerYear] at hyear
  push_cast at hclaims hshare hsupplied hyear ⊢
  have hminted : (treasuryShare (debt' - debt) r.config.reserveFactor (r.nextLiquidityIndex now) *
      r.nextLiquidityIndex now : ℚ) ≤
      ((debt' - debt) * (1 - (1 - r.config.reserveFactor / 10000)) + 1 / 2) * 10 ^ 27 +
        r.nextLiquidityIndex now / 2 := by
    linarith
  rw [add_mul]
  refine claims_le_of_growth (by exact_mod_cast ha) (by exact_mod_cast hd) (by exact_mod_cast hv)
    (by exact_mod_cast hseconds) ?_ ?_ ?_ hsupplied hsupply hyear hnext hclaims hminted
  · exact_mod_cast Int.le_trans (Int.le_of_lt ray_pos) hcompound
  · linarith
  · linarith

def lentAtTheKink : Reserve where
  asset := .text "DAI"
  config := .dai
  strategy := .kinked .stableTwo
  currentLiquidityRate := 28800000000000000000000000
  currentVariableBorrowRate := 40000000000000000000000000
  currentStableBorrowRate := 59000000000000000000000000
  scaledVariableDebt := 800000000000000000000000
  scaledTotalSupply := 1000000000000000000000000
  availableLiquidity := 200000000000000000000000

theorem lentAtTheKink_rates : lentAtTheKink.AtKinkedRates .stableTwo where
  strategy := rfl
  params := by constructor <;> decide
  noStableDebt := rfl
  ray_le_liquidityIndex := by decide
  ray_le_debtIndex := by decide
  rates := rfl

theorem lentAtTheKink_backed :
    ∃ s debt' factor, lentAtTheKink.accrue secondsPerYear = .ok s ∧
      s.storedVariableDebt = .ok debt' ∧
      compoundedFactor lentAtTheKink.currentVariableBorrowRate 0 secondsPerYear = .ok factor ∧
      (s.scaledTotalSupply * s.liquidityIndex : ℚ) ≤
        10 ^ 27 * (lentAtTheKink.availableLiquidity + debt') +
          roundingSlack (lentAtTheKink.availableLiquidity + (800000000000000000000000 : Int))
            lentAtTheKink.currentVariableBorrowRate
            (secondsPerYear - (0 : Int)) factor s.liquidityIndex :=
  supplierClaims_backed lentAtTheKink_rates (by decide) rfl (by decide)

end MoneyMarket.Reserve
