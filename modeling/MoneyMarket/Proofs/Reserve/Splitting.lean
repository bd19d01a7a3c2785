import MoneyMarket.Proofs.Interest.Splitting
import MoneyMarket.Proofs.Reserve.Round

/-!
# Accruing in two steps

A reserve is accrued whenever somebody deals with it. At a constant rate it makes no difference to
anyone's advantage how often: two accruals grow an index by the factors of both parts of a period,
which come to no less than the factor of the whole by which a single one grows it, up to rounding.
-/

namespace MoneyMarket.Reserve

open MoneyMarket.FixedPoint MoneyMarket.Interest

variable {r s t u : Reserve} {rate last now a b : Int}

/-! ## Growth of an index -/

theorem Running.liquidityIndex_grown (hr : Running now r) (h : r.accrue now = .ok s) :
    rayMul (linearAfter r.currentLiquidityRate (now - r.lastUpdateTimestamp)) r.liquidityIndex =
      .ok s.liquidityIndex := by
  have hincome := (hr.updated_of_accrue h).income
  have hfactor := ray_le_linearAfter hr.rate hr.elapsed_nonneg
  rw [← hincome, hr.normalizedIncome_eq]
  exact mulChecked_ok _ _ (nonneg_of_ray_le hfactor) hr.income

theorem Running.debtIndex_grown (hr : Running now r) (hrate : 0 ≤ r.currentVariableBorrowRate)
    (hdebt : 0 < r.scaledVariableDebt) (h : r.accrue now = .ok s) :
    rayMul (compoundAfter r.currentVariableBorrowRate (now - r.lastUpdateTimestamp))
      r.variableBorrowIndex = .ok s.variableBorrowIndex := by
  have hprojected := (hr.updated_of_accrue h).debt hdebt
  have hfactor := ray_le_compoundAfter hrate hr.elapsed_nonneg
  rw [← hprojected, hr.normalizedDebt_eq hrate]
  exact mulChecked_ok _ _ (nonneg_of_ray_le hfactor) hr.debt

/-! ## Two steps and one -/

/-- Last updated at `last`, `r` is accrued after `a` seconds to `s` and after `b` more to `t`, or over
all of them at once to `u`. -/
structure BothWays (last a b : Int) (r s t u : Reserve) : Prop where
  updated : r.lastUpdateTimestamp = last
  running : Running (last + a) r
  first : r.accrue (last + a) = .ok s
  second : s.accrue (last + a + b) = .ok t
  once : r.accrue (last + a + b) = .ok u

structure GrowsBy (index : Reserve → Int) (first second all : Int) (r s t u : Reserve) : Prop where
  first : rayMul first (index r) = .ok (index s)
  second : rayMul second (index s) = .ok (index t)
  once : rayMul all (index r) = .ok (index u)

namespace BothWays

theorem after_first (h : BothWays last a b r s t u) : Updated (last + a) r s :=
  h.running.updated_of_accrue h.first

theorem running_first (h : BothWays last a b r s t u) (hb : 0 ≤ b) : Running (last + a + b) s :=
  h.after_first.running.later (by omega)

theorem running_once (h : BothWays last a b r s t u) (hb : 0 ≤ b) : Running (last + a + b) r :=
  h.running.later (by omega)

theorem elapsed (h : BothWays last a b r s t u) : last + a - r.lastUpdateTimestamp = a ∧
    last + a + b - s.lastUpdateTimestamp = b ∧ last + a + b - r.lastUpdateTimestamp = a + b := by
  rw [h.updated, h.after_first.time]
  omega

theorem grows_income (h : BothWays last a b r s t u) (hb : 0 ≤ b)
    (hr : r.currentLiquidityRate = rate) (hs : s.currentLiquidityRate = rate) :
    GrowsBy liquidityIndex (linearAfter rate a) (linearAfter rate b) (linearAfter rate (a + b))
      r s t u := by
  have hfirst := h.running.liquidityIndex_grown h.first
  have hsecond := (h.running_first hb).liquidityIndex_grown h.second
  have honce := (h.running_once hb).liquidityIndex_grown h.once
  obtain ⟨htime, htime', htimes⟩ := h.elapsed
  rw [hr, htime] at hfirst
  rw [hs, htime'] at hsecond
  rw [hr, htimes] at honce
  exact ⟨hfirst, hsecond, honce⟩

theorem grows_debt (h : BothWays last a b r s t u) (hrate : 0 ≤ rate) (hb : 0 ≤ b)
    (hr : r.currentVariableBorrowRate = rate) (hs : s.currentVariableBorrowRate = rate)
    (hdebt : 0 < r.scaledVariableDebt) :
    GrowsBy variableBorrowIndex (compoundAfter rate a) (compoundAfter rate b)
      (compoundAfter rate (a + b)) r s t u := by
  have hdebt' : 0 < s.scaledVariableDebt := by rwa [h.after_first.scaledVariableDebt]
  have hfirst := h.running.debtIndex_grown (hr ▸ hrate) hdebt h.first
  have hsecond := (h.running_first hb).debtIndex_grown (hs ▸ hrate) hdebt' h.second
  have honce := (h.running_once hb).debtIndex_grown (hr ▸ hrate) hdebt h.once
  obtain ⟨htime, htime', htimes⟩ := h.elapsed
  rw [hr, htime] at hfirst
  rw [hs, htime'] at hsecond
  rw [hr, htimes] at honce
  exact ⟨hfirst, hsecond, honce⟩

theorem debtIndex_stands (h : BothWays last a b r s t u) (hb : 0 ≤ b)
    (hnone : ¬ 0 < r.scaledVariableDebt) :
    t.variableBorrowIndex = r.variableBorrowIndex ∧
      u.variableBorrowIndex = r.variableBorrowIndex := by
  have hnone' : ¬ 0 < s.scaledVariableDebt := by rwa [h.after_first.scaledVariableDebt]
  have hfirst := h.running.debtIndex_stands hnone h.first
  have hsecond := (h.running_first hb).debtIndex_stands hnone' h.second
  exact ⟨hsecond.trans hfirst, (h.running_once hb).debtIndex_stands hnone h.once⟩

end BothWays

/-- **Splitting a period loses no interest**, up to rounding. The factor of the whole is at most the
product of the factors of both parts, give or take a quarter for each unit of `a * b * (a + b) + 2`
where it compounds, and one where it is linear. By just these factors accruals grow the indices at a
constant rate. -/
theorem splitting_loses_nothing (hrate : 0 ≤ rate) (ha : 0 ≤ a) (hb : 0 ≤ b) :
    (∃ first second all joined,
      compoundedFactor rate last (last + a) = .ok first ∧
      compoundedFactor rate (last + a) (last + a + b) = .ok second ∧
      compoundedFactor rate last (last + a + b) = .ok all ∧
      rayMul first second = .ok joined ∧ 4 * all ≤ 4 * joined + a * b * (a + b) + 2 ∧
      ∀ r s t u, BothWays last a b r s t u →
        (r.currentVariableBorrowRate = rate → s.currentVariableBorrowRate = rate →
          0 < r.scaledVariableDebt → GrowsBy variableBorrowIndex first second all r s t u) ∧
        (¬ 0 < r.scaledVariableDebt → t.variableBorrowIndex = r.variableBorrowIndex ∧
          u.variableBorrowIndex = r.variableBorrowIndex)) ∧
    ∃ first second all joined,
      linearFactor rate last (last + a) = .ok first ∧
      linearFactor rate (last + a) (last + a + b) = .ok second ∧
      linearFactor rate last (last + a + b) = .ok all ∧
      rayMul first second = .ok joined ∧ all ≤ joined + 1 ∧
      ∀ r s t u, BothWays last a b r s t u →
        r.currentLiquidityRate = rate → s.currentLiquidityRate = rate →
          GrowsBy liquidityIndex first second all r s t u := by
  have hab : 0 ≤ a + b := Int.add_nonneg ha hb
  have hcompound (since : Int) {n : Int} (hn : 0 ≤ n) :
      compoundedFactor rate since (since + n) = .ok (compoundAfter rate n) := by
    rw [compoundedFactor_ok hrate (by omega), add_sub_cancel_left]
  have hlinear (since : Int) {n : Int} (hn : 0 ≤ n) :
      linearFactor rate since (since + n) = .ok (linearAfter rate n) := by
    rw [linearFactor_ok hrate (by omega), add_sub_cancel_left]
  have hwhole : last + a + b = last + (a + b) := Int.add_assoc _ _ _
  constructor
  · refine ⟨_, _, _, _, hcompound last ha, hcompound (last + a) hb, hwhole ▸ hcompound last hab,
      mulChecked_ok _ _ ?_ ?_, compoundAfter_add_le hrate ha hb, fun r s t u h => ⟨?_, ?_⟩⟩
    · exact nonneg_of_ray_le (ray_le_compoundAfter hrate ha)
    · exact nonneg_of_ray_le (ray_le_compoundAfter hrate hb)
    · exact h.grows_debt hrate hb
    · exact h.debtIndex_stands hb
  · refine ⟨_, _, _, _, hlinear last ha, hlinear (last + a) hb, hwhole ▸ hlinear last hab,
      mulChecked_ok _ _ ?_ ?_, linearAfter_add_le hrate ha hb, fun r s t u h => h.grows_income hb⟩
    · exact nonneg_of_ray_le (ray_le_linearAfter hrate ha)
    · exact nonneg_of_ray_le (ray_le_linearAfter hrate hb)

/-- A reserve of which all is lent, so that its rates stay as they are. -/
def lentOut : Reserve where
  asset := .text "DAI"
  config := .dai
  strategy := .kinked .stableTwo
  currentLiquidityRate := 711000000000000000000000000
  currentVariableBorrowRate := 790000000000000000000000000
  currentStableBorrowRate := 809000000000000000000000000
  scaledVariableDebt := 1000000000000000000000000
  scaledTotalSupply := 1000000000000000000000000

theorem lentOut_splits : ∃ s t u, BothWays 0 86400 31449600 lentOut s t u ∧
    (∃ first second all joined, GrowsBy variableBorrowIndex first second all lentOut s t u ∧
      rayMul first second = .ok joined ∧
      4 * all ≤ 4 * joined + 86400 * 31449600 * (86400 + 31449600) + 2) ∧
    ∃ first second all joined, GrowsBy liquidityIndex first second all lentOut s t u ∧
      rayMul first second = .ok joined ∧ all ≤ joined + 1 := by
  obtain ⟨s, hs, hdebtRate, hincomeRate, t, ht, -⟩ : ∃ s, lentOut.accrue 86400 = .ok s ∧
      s.currentVariableBorrowRate = 790000000000000000000000000 ∧
      s.currentLiquidityRate = 711000000000000000000000000 ∧
      ∃ t, s.accrue secondsPerYear = .ok t ∧ True := by decide +kernel
  obtain ⟨u, hu, -⟩ : ∃ u, lentOut.accrue secondsPerYear = .ok u ∧ True := by decide +kernel
  have hways : BothWays 0 86400 31449600 lentOut s t u := by
    refine ⟨rfl, ?_, hs, ht, hu⟩
    constructor <;> decide
  obtain ⟨⟨first, second, all, joined, -, -, -, hjoined, hle, hgrown⟩, -⟩ :=
    @splitting_loses_nothing 790000000000000000000000000 0 86400 31449600
      (by decide) (by decide) (by decide)
  obtain ⟨-, first', second', all', joined', -, -, -, hjoined', hle', hgrown'⟩ :=
    @splitting_loses_nothing 711000000000000000000000000 0 86400 31449600
      (by decide) (by decide) (by decide)
  have hdebt := (hgrown _ _ _ _ hways).1 rfl hdebtRate (by decide)
  have hincome := hgrown' _ _ _ _ hways rfl hincomeRate
  exact ⟨s, t, u, hways, ⟨first, second, all, joined, hdebt, hjoined, hle⟩,
    first', second', all', joined', hincome, hjoined', hle'⟩

end MoneyMarket.Reserve
