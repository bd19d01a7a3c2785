import MoneyMarket.Proofs.Ledger.Reports
import MoneyMarket.Proofs.Liquidation.Margin

/-!
# Planning a liquidation

In a ledger that is in order a liquidation can be planned whenever it is not refused: every figure
on the way has a value, and those that are moved are whole and can be booked.
-/

namespace MoneyMarket

open MoneyMarket.FixedPoint

variable {faults : Fault → Prop} {now : Int}

/-! ## Seizure -/

namespace SeizureTerms

variable {t : SeizureTerms} {debt available : Int}

section Answering

variable (hrefused : ∀ cause, faults (.refused cause)) (ht : t.Usable) (hbonus : 0 ≤ t.bonus)
include hrefused ht hbonus

theorem debtFor_answers (havailable : 0 ≤ available) :
    Answers faults (fun q => ∃ n, q = .whole n ∧ 0 ≤ n) (t.debtFor (.whole available)) := by
  rw [debtFor_eq ht]
  apply Answers.map
  apply (percentDiv_answers hrefused (worth_nonneg ht havailable) hbonus).mono
  intro n hn
  exact ⟨n, rfl, hn⟩

theorem seize_answers (hdebt : 0 ≤ debt) (havailable : 0 ≤ available) :
    Answers faults (fun x => ∃ m n, x = (.whole m, .whole n) ∧ 0 ≤ m ∧ 0 ≤ n)
      (t.seize debt (.whole available)) := by
  obtain ⟨hwanted, hnonneg⟩ := collateralFor_eq ht hbonus hdebt
  unfold seize
  rw [hwanted, ok_bind]
  split
  · exact ⟨t.wanted debt, debt, rfl, hnonneg, hdebt⟩
  · apply (debtFor_answers hrefused ht hbonus havailable).andThen
    rintro _ ⟨covered, rfl, hcovered⟩
    rw [Quantity.least_whole]
    exact ⟨available, min covered debt, rfl, havailable, by omega⟩

end Answering

end SeizureTerms

@[mk_iff]
structure LiquidationParams.NonNegative (params : LiquidationParams) : Prop where
  closeFactor : 0 ≤ params.closeFactor
  maxStableLoanPercent : 0 ≤ params.maxStableLoanPercent

instance (params : LiquidationParams) : Decidable params.NonNegative :=
  decidable_of_iff' _ (params.nonNegative_iff)

theorem LiquidationParams.NonNegative.closeFactorAt {params : LiquidationParams}
    (h : params.NonNegative) (q : Quantity) : 0 ≤ params.closeFactorAt q := by
  unfold LiquidationParams.closeFactorAt
  split
  · decide
  · split
    · decide
    · exact h.closeFactor

namespace Ledger

variable {l : Ledger} {s : Surroundings} {params : LiquidationParams} {r : Reserve} {asset : Name}

/-! ## Plans -/

theorem Orderly.debtsOf_total (h : l.Orderly now) (hr : l.reserve? asset = some r) (user : Name) :
    ∃ stable floating, l.debtsOf user asset r now = .ok (stable, floating) ∧
      0 ≤ stable ∧ 0 ≤ floating := by
  obtain ⟨stable, hstable, hstable'⟩ := (h.position user asset).stableDebt_total
  obtain ⟨floating, hfloating, hfloating'⟩ :=
    (h.position user asset).variableDebt_total (h.reserves _ r hr)
  exact ⟨stable, floating, debtsOf_ok_iff.2 ⟨hstable, hfloating⟩, hstable', hfloating'⟩

theorem Orderly.supplyOf_total (h : l.Orderly now) (hr : l.reserve? asset = some r) (user : Name) :
    ∃ balance, l.supplyOf user asset r now = .ok balance ∧ 0 ≤ balance := by
  rw [supplyOf_eq]
  exact (h.position user asset).supplyBalance_total (h.reserves _ r hr)

section Answering

variable (hrefused : ∀ cause, faults (.refused cause))
include hrefused

theorem requireOpen_answers (collateral debt : Reserve) :
    Answers faults (fun _ => True) (requireOpen collateral debt) := by
  unfold requireOpen Reserve.requireActive Reserve.requireNotPaused
  cases collateral.active <;> cases collateral.paused <;>
    cases debt.active <;> cases debt.paused <;> first
    | exact hrefused _
    | trivial

theorem Orderly.planLiquidation_answers (h : l.Orderly now) (hmargin : s.margin.NonNegative)
    (hparams : params.NonNegative) (borrower debtAsset : Name) (debtToCover : Int) (usable : Bool) :
    Answers faults (fun plan => usable = true ∧ 0 ≤ plan.debtToCover)
      (l.planLiquidation s params borrower debtAsset debtToCover now usable) := by
  unfold planLiquidation
  apply Answers.guard (hrefused _)
  intro hpositive
  apply (h.solvency_answers hrefused hmargin borrower).andThen
  intro report _
  apply Answers.guard (hrefused _)
  intro _
  apply Answers.guard (hrefused _)
  intro husable
  apply (reserve_answers hrefused l debtAsset).andThen
  intro r hr
  obtain ⟨stable, floating, hdebts, hstable, hfloating⟩ := h.debtsOf_total hr borrower
  rw [hdebts, ok_bind]
  apply Answers.guard (hrefused _)
  intro _
  obtain ⟨most, hmost, hnonneg⟩ := percentMul_total (Int.add_nonneg hstable hfloating)
    (hparams.closeFactorAt report.healthFactor)
  dsimp only
  rw [hmost, ok_bind]
  refine ⟨by simpa using husable, ?_⟩
  show 0 ≤ min debtToCover most
  omega

theorem Orderly.collateralToSeize_answers (h : l.Orderly now)
    {collateral debt : Reserve} {a b : Key}
    (hcollateral : l.reserve? a = some collateral) (hdebt : l.reserve? b = some debt)
    {prices : PriceBoard} {collateralAsset debtAsset : Name} {debtToCover bonus available : Int}
    (hcover : 0 ≤ debtToCover) (hbonus : 0 ≤ bonus) (havailable : 0 ≤ available) :
    Answers faults (fun x => ∃ m n, x = (.whole m, .whole n) ∧ 0 ≤ m ∧ 0 ≤ n)
      (collateralToSeize prices collateralAsset collateral.config.decimals debtAsset
        debt.config.decimals debtToCover bonus (.whole available)) := by
  unfold collateralToSeize
  apply (prices.requirePrice_answers hrefused collateralAsset).andThen
  rintro collateralPrice ⟨hcollateralPrice, _⟩
  apply (prices.requirePrice_answers hrefused debtAsset).andThen
  rintro debtPrice ⟨hdebtPrice, _⟩
  have husable := h.wholeTokens.usable hcollateral hdebt hcollateralPrice hdebtPrice bonus
  exact SeizureTerms.seize_answers hrefused husable hbonus hcover havailable

end Answering

end Ledger

/-! ## Results -/

def LiquidationResult.Repays (result : LiquidationResult) (l : Ledger) (debtAsset : Name) : Prop :=
  ∃ r n, l.reserve? debtAsset = some r ∧ result.debtRepaid = .whole n ∧ 0 ≤ n

def LiquidationResult.Seizes (result : LiquidationResult) (l : Ledger) (c : LiquidationCall) :
    Prop :=
  ∃ r n, l.reserve? c.collateralAsset = some r ∧ result.collateralSeized = .whole n ∧ 0 ≤ n ∧
    (c.receiveUnderlying = true → n ≤ r.availableLiquidity)

namespace Ledger

variable {l : Ledger} {s : Surroundings} {params : LiquidationParams}
variable (hrefused : ∀ cause, faults (.refused cause)) (h : l.Orderly now)
include hrefused h

theorem Orderly.planStandardLiquidation_answers (hmargin : s.margin.NonNegative)
    (hparams : params.NonNegative) (c : LiquidationCall) :
    Answers faults (fun result => result.Repays l c.debtAsset ∧ result.Seizes l c)
      (l.planStandardLiquidation s params c now) := by
  unfold planStandardLiquidation
  apply (reserve_answers hrefused l c.collateralAsset).andThen
  intro collateral hcollateral
  apply (reserve_answers hrefused l c.debtAsset).andThen
  intro debt hdebt
  apply (requireOpen_answers hrefused collateral debt).andThen
  intro _ _
  obtain ⟨balance, hbalance, hsupply⟩ := h.supplyOf_total hcollateral c.borrower
  rw [hbalance, ok_bind]
  apply (h.planLiquidation_answers hrefused hmargin hparams _ _ _ _).andThen
  rintro plan ⟨_, hcover⟩
  have hbonus := (h.reserves _ _ hcollateral).config.liquidationBonus
  apply (h.collateralToSeize_answers hrefused hcollateral hdebt hcover hbonus hsupply).andThen
  rintro _ ⟨m, n, rfl, hm, hn⟩
  apply Answers.guard (hrefused _)
  intro hliquidity
  refine ⟨⟨debt, n, hdebt, rfl, hn⟩, collateral, m, hcollateral, rfl, hm, ?_⟩
  intro hunderlying
  simpa [hunderlying] using hliquidity

theorem Orderly.marginCollateralValue_answers (user : Key) :
    Answers faults (fun q => ∃ value, q = .whole value) (l.marginCollateralValue s user) := by
  unfold marginCollateralValue
  dsimp only
  split
  · exact ⟨0, rfl⟩
  · have hamount : 0 ≤ (s.feed.snapshot user).collateralValue := Int.le_max_left _ _
    apply (h.referenceValue_answers hrefused hamount).mono
    rintro q ⟨value, hvalue, _⟩
    exact ⟨value, hvalue⟩

theorem Orderly.availableMarginCollateral_answers (user : Key) (asset : Name) :
    Answers faults (fun q => ∃ n, q = .whole n) (l.availableMarginCollateral s user asset) := by
  unfold availableMarginCollateral
  split
  · exact ⟨0, rfl⟩
  · dsimp only
    split
    · exact ⟨_, rfl⟩
    · apply (h.marginCollateralValue_answers hrefused user).andThen
      rintro _ ⟨value, rfl⟩
      apply (reserve_answers hrefused l asset).andThen
      intro r hr
      rw [tokenUnits_of_nonneg (h.wholeTokens _ r hr), ok_bind, Quantity.mul_whole, ok_bind]
      apply (s.prices.requirePrice_answers hrefused asset).andThen
      rintro price ⟨_, hprice⟩
      rw [Quantity.floorDiv_whole _ hprice]
      exact ⟨_, rfl⟩

theorem Orderly.planMarginLiquidation_answers (hmargin : s.margin.NonNegative)
    (hparams : params.NonNegative) (m : MarginLiquidation) :
    Answers faults (fun result => result.Repays l m.debtAsset)
      (l.planMarginLiquidation s params m now) := by
  unfold planMarginLiquidation
  apply Answers.guard (hrefused _)
  intro hmost
  apply (reserve_answers hrefused l m.debtAsset).andThen
  intro debt hdebt
  apply (reserve_answers hrefused l m.collateralAsset).andThen
  intro collateral hcollateral
  apply (requireOpen_answers hrefused collateral debt).andThen
  intro _ _
  apply (h.availableMarginCollateral_answers hrefused m.borrower m.collateralAsset).andThen
  rintro _ ⟨available, rfl⟩
  apply (h.planLiquidation_answers hrefused hmargin hparams _ _ _ _).andThen
  rintro plan ⟨husable, hcover⟩
  rw [Quantity.isPositive_whole, decide_eq_true_eq] at husable
  have hlimit : 0 ≤ min available m.maxCollateral := by omega
  rw [Quantity.least_whole]
  apply (h.collateralToSeize_answers hrefused hcollateral hdebt hcover hmargin.liquidationBonus
    hlimit).andThen
  rintro _ ⟨seized, repaid, rfl, _, hrepaid⟩
  apply Answers.guard (hrefused _)
  intro _
  exact ⟨debt, repaid, hdebt, rfl, hrepaid⟩

end Ledger

end MoneyMarket
