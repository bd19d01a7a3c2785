import MoneyMarket.Proofs.Liquidation
import MoneyMarket.Proofs.Quantity

/-!
# What a margin liquidation may take

A debit is instructed only for an account that has opted in and is not healthy, in exchange for some
of its debt. It is no more than was allowed, than is available in the asset, and than all margin
collateral of the account is worth.
-/

namespace MoneyMarket

open MoneyMarket.FixedPoint

/-! ## Seizure -/

namespace SeizureTerms

variable {t : SeizureTerms} {debt available : Int} {seized repaid : Quantity}

theorem seize_le (h : t.seize debt (.whole available) = .ok (seized, repaid)) :
    seized.le (.whole available) := by
  unfold seize at h
  obtain ⟨wanted, _, h⟩ := bind_ok_iff.1 h
  split at h
  · cases h
    assumption
  · obtain ⟨covered, _, h⟩ := bind_ok_iff.1 h
    cases h
    simp

end SeizureTerms

namespace Ledger

variable {l : Ledger} {s : Surroundings} {params : LiquidationParams} {now : Int}

/-! ## Available collateral -/

section Available

variable {user : Key} {asset : Name} {r : Reserve} {price : Int} {q : Quantity}

theorem availableMarginCollateral_reference (hasset : asset.key = .text s.margin.referenceAsset)
    (h : l.availableMarginCollateral s user asset = .ok q) (hq : q.isPositive) :
    q = .whole (s.feed.snapshot user).collateralValue := by
  unfold availableMarginCollateral at h
  split at h
  · cases h
    cases hq
  · rw [if_pos (.inr hasset)] at h
    exact (pure_ok_iff.1 h).symm

theorem usesMargin_of_available (h : l.availableMarginCollateral s user asset = .ok q)
    (hq : q.isPositive) : l.usesMargin user = true := by
  unfold availableMarginCollateral at h
  split at h
  · cases h
    cases hq
  · simp_all

theorem marginCollateralValue_whole (hwhole : l.WholeTokens)
    (h : l.marginCollateralValue s user = .ok q) : ∃ n, q = .whole n := by
  unfold marginCollateralValue at h
  dsimp only at h
  split at h
  · cases h
    exact ⟨0, rfl⟩
  · obtain ⟨_, _, _, _, rfl⟩ := (referenceValue_ok_iff hwhole).1 h
    exact ⟨_, rfl⟩

theorem wholeValue_floor_le {value amount : Int} (hprice : 0 < price)
    (hle : amount ≤ value * Numeral.tenPow r.config.decimals.toNat / price) :
    r.wholeValue price amount ≤ value := by
  have hunits := SeizureTerms.units_pos r.config.decimals
  apply Int.ediv_le_of_le_mul hunits
  calc price * amount ≤ price * (value * Numeral.tenPow r.config.decimals.toNat / price) :=
        Int.mul_le_mul_of_nonneg_left hle (Int.le_of_lt hprice)
    _ ≤ value * Numeral.tenPow r.config.decimals.toNat := Int.mul_ediv_self_le (by omega)

/-- Nothing that is available is worth more than all of the margin collateral. -/
theorem available_worth (hwhole : l.WholeTokens) (hr : l.reserve? asset = some r)
    (hprice : s.prices.requirePrice asset = .ok price)
    (h : l.availableMarginCollateral s user asset = .ok q) (hq : q.isPositive) :
    ∃ available limit, q = .whole available ∧
      l.marginCollateralValue s user = .ok (.whole limit) ∧
      ∀ amount ≤ available, r.wholeValue price amount ≤ limit := by
  have hpos := (PriceBoard.requirePrice_eq_ok.1 hprice).2
  unfold availableMarginCollateral at h
  simp only [usesMargin_of_available h hq, Bool.not_true, Bool.false_eq_true, if_false] at h
  split at h
  · rename_i hcase
    cases h
    rw [Quantity.isPositive_whole, decide_eq_true_eq] at hq
    have hasset := hcase.resolve_left (by omega)
    refine ⟨_, r.wholeValue price (s.feed.snapshot user).collateralValue, rfl, ?_, ?_⟩
    · unfold marginCollateralValue
      rw [if_neg (by omega), referenceValue_ok_iff hwhole]
      refine ⟨r, price, hasset ▸ hr, ?_, rfl⟩
      rw [PriceBoard.requirePrice_eq_ok] at hprice ⊢
      rwa [Name.key_text, ← hasset]
    · intro amount hle
      exact wholeValue_mono hpos hle
  · simp only [bind_ok_iff, reserve_ok_iff, hr, Option.some.injEq, exists_eq_left', hprice,
      Except.ok.injEq, tokenUnits_of_nonneg (hwhole _ _ hr)] at h
    obtain ⟨value, hvalue, scaled, hscaled, hfloor⟩ := h
    obtain ⟨limit, rfl⟩ := marginCollateralValue_whole hwhole hvalue
    rw [Quantity.mul_whole, Except.ok.injEq] at hscaled
    subst hscaled
    rw [Quantity.floorDiv_whole _ hpos, Except.ok.injEq] at hfloor
    exact ⟨_, limit, hfloor.symm, hvalue, fun amount hle => wholeValue_floor_le hpos hle⟩

end Available

/-! ## Debits -/

structure Debitable (l : Ledger) (s : Surroundings) (now : Int) (account : Key) : Prop where
  optedIn : l.usesMargin account = true
  unhealthy : ∃ report, l.solvency s account now = .ok report ∧
    (Quantity.whole wad).le report.healthFactor = false

end Ledger

structure DebitFigures where
  healthFactor : Int
  repaid : Int
  amount : Int
  available : Int
  /-- The value of the amount. -/
  value : Int
  /-- The value of all margin collateral of the account. -/
  collateralValue : Int

/-- The account was liquidatable, some of its debt was repaid, and the debit is within all limits. -/
structure DebitFigures.Within (f : DebitFigures) (l : Ledger) (s : Surroundings) (now most : Int)
    (i : DebitInstruction) : Prop where
  factor : ∃ report, l.solvency s i.account now = .ok report ∧
    report.healthFactor = .whole f.healthFactor
  unhealthy : f.healthFactor < wad
  repaid_pos : 0 < f.repaid
  amount : i.amount = .whole f.amount
  limit : f.amount ≤ most
  available : l.availableMarginCollateral s i.account i.asset = .ok (.whole f.available)
  amount_le : f.amount ≤ f.available
  value : ∃ r price, l.reserve? i.asset = some r ∧ s.prices.requirePrice i.asset = .ok price ∧
    valueOf price f.amount r.config.decimals = .ok (.whole f.value)
  collateralValue : l.marginCollateralValue s i.account = .ok (.whole f.collateralValue)
  value_le : f.value ≤ f.collateralValue

namespace Ledger

variable {l : Ledger} {s : Surroundings} {params : LiquidationParams} {now : Int}
variable {m : MarginLiquidation} {result : LiquidationResult}

theorem planMarginLiquidation_ok (h : l.planMarginLiquidation s params m now = .ok result) :
    ∃ (collateral debt : Reserve) (available : Quantity) (plan : LiquidationPlan)
      (collateralPrice debtPrice : Int), 0 < m.maxCollateral ∧
      l.reserve? m.collateralAsset = some collateral ∧ l.reserve? m.debtAsset = some debt ∧
      requireOpen collateral debt = .ok () ∧
      l.availableMarginCollateral s m.borrower m.collateralAsset = .ok available ∧
      l.planLiquidation s params m.borrower m.debtAsset m.debtToCover now available.isPositive =
        .ok plan ∧
      s.prices.requirePrice m.collateralAsset = .ok collateralPrice ∧
      s.prices.requirePrice m.debtAsset = .ok debtPrice ∧
      SeizureTerms.seize ⟨collateralPrice, collateral.config.decimals, debtPrice,
          debt.config.decimals, s.margin.liquidationBonus⟩ plan.debtToCover
        (available.least (.whole m.maxCollateral)) =
          .ok (result.collateralSeized, result.debtRepaid) ∧
      result.debtRepaid.isZero = false ∧
      result.instruction = some
        ⟨m.borrower, m.collateralAsset, result.collateralSeized, m.destination⟩ := by
  unfold planMarginLiquidation collateralToSeize at h
  simp only [guard_ok_iff, bind_ok_iff, Prod.exists, pure_ok_iff, reserve_ok_iff] at h
  obtain ⟨hlimit, debt, hdebt, collateral, hcollateral, _, hopen, available, havailable, plan, hplan,
    seized, repaid, ⟨collateralPrice, hcollateralPrice, debtPrice, hdebtPrice, hseize⟩, hsome, rfl⟩ := h
  exact ⟨collateral, debt, available, plan, collateralPrice, debtPrice, by omega, hcollateral, hdebt,
    hopen, havailable, hplan, hcollateralPrice, hdebtPrice, hseize, by simpa using hsome, rfl⟩

theorem planMarginLiquidation_debit (h : l.planMarginLiquidation s params m now = .ok result) :
    result.instruction = some
        ⟨m.borrower, m.collateralAsset, result.collateralSeized, m.destination⟩ ∧
      Debitable l s now m.borrower ∧
      (m.collateralAsset.key = .text s.margin.referenceAsset → result.collateralSeized.le
        (.whole (s.feed.snapshot m.borrower).collateralValue)) := by
  obtain ⟨_, _, available, plan, _, _, _, _, _, _, havailable, hplan, _, _, hseize, _,
    hinstruction⟩ := planMarginLiquidation_ok h
  obtain ⟨report, _, hreport, hunhealthy, husable, _⟩ := planLiquidation_ok hplan
  refine ⟨hinstruction, ⟨usesMargin_of_available havailable husable, report, hreport, hunhealthy⟩, ?_⟩
  intro hreference
  obtain rfl := availableMarginCollateral_reference hreference havailable husable
  rw [Quantity.least_whole] at hseize
  exact Quantity.le_whole_trans (SeizureTerms.seize_le hseize) (Int.min_le_left _ _)

theorem planMarginLiquidation_figures (hwhole : l.WholeTokens)
    (h : l.planMarginLiquidation s params m now = .ok result) : ∃ f : DebitFigures,
      result.debtRepaid = .whole f.repaid ∧ f.Within l s now m.maxCollateral
        ⟨m.borrower, m.collateralAsset, result.collateralSeized, m.destination⟩ := by
  obtain ⟨collateral, debt, available, plan, collateralPrice, debtPrice, hmost, hcollateral, hdebt, _,
    havailable, hplan, hcollateralPrice, hdebtPrice, hseize, hsome, _⟩ := planMarginLiquidation_ok h
  obtain ⟨report, hpositive, hreport, hunhealthy, husable, _, _, _, hlimited, hcover⟩ :=
    planLiquidation_ok hplan
  obtain ⟨factor, hvalue⟩ : ∃ n, report.healthFactor = .whole n := by
    obtain ⟨_, _, _, hwholes⟩ := solvency_whole hwhole hreport
    exact ⟨_, hwholes.healthFactor⟩
  rw [hvalue, Quantity.le_whole, decide_eq_false_iff_not, Int.not_le] at hunhealthy
  obtain ⟨all, limit, rfl, hlimit, hworth⟩ :=
    available_worth hwhole hcollateral hcollateralPrice havailable husable
  have husable' := hwhole.usable hcollateral hdebt hcollateralPrice hdebtPrice
    s.margin.liquidationBonus
  have hlimited := percentMul_nonneg hlimited
  rw [Quantity.isPositive_whole, decide_eq_true_eq] at husable
  rw [Quantity.least_whole] at hseize
  obtain ⟨amount, repaid, hamount, hrepaid, _, hle, hnonneg, _⟩ :=
    SeizureTerms.seize_whole husable' (by omega) (by omega) hseize
  rw [hrepaid, Quantity.isZero_whole, decide_eq_false_iff_not] at hsome
  refine ⟨⟨factor, repaid, amount, all, collateral.wholeValue collateralPrice amount, limit⟩,
    hrepaid, ?_⟩
  constructor
  · exact ⟨report, hreport, hvalue⟩
  · exact hunhealthy
  · show 0 < repaid
    omega
  · exact hamount
  · exact Int.le_trans hle (Int.min_le_right _ _)
  · exact havailable
  · exact Int.le_trans hle (Int.min_le_left _ _)
  · exact ⟨collateral, collateralPrice, hcollateral, hcollateralPrice,
      (valueOf_whole (hwhole _ _ hcollateral)).2 rfl⟩
  · exact hlimit
  · exact hworth _ (Int.le_trans hle (Int.min_le_left _ _))

end Ledger

end MoneyMarket
