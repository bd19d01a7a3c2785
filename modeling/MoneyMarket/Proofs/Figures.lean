import MoneyMarket.Ledger.Booking
import MoneyMarket.Proofs.Progress
import MoneyMarket.Solvency

/-!
# Failing for want of a figure

Arithmetic, interest, accruals, bookings and reports do not judge what is asked of the market. They
fail only where a figure that they need cannot be had. Whatever else a request fails for, an
admission check has found.
-/

namespace MoneyMarket

open MoneyMarket.FixedPoint MoneyMarket.Interest

/-- There is no figure: a value is invalid or too large, an operation is infeasible, or a price or a
reserve is missing. -/
inductive Fault.NoFigure : Fault → Prop
  | invalid (cause : Invalid) : NoFigure (.invalid cause)
  | missingReserve (asset : Name) : NoFigure (.missingReserve asset)
  | tooLarge : NoFigure .tooLarge
  | divisionByZero : NoFigure .divisionByZero
  | zeroDivisor (scale : Scale) : NoFigure (.refused (.zeroDivisor scale))
  | shockAboveWhole : NoFigure (.refused .shockAboveWhole)
  | modelFactorTooHigh : NoFigure (.refused .modelFactorTooHigh)
  | unlistedReference (asset : Name) : NoFigure (.refused (.unlistedReference asset))
  | priceUnusable (asset : Json) (price : Reported) :
    NoFigure (.refused (.priceUnusable asset price))

attribute [simp] Fault.NoFigure.invalid Fault.NoFigure.missingReserve Fault.NoFigure.tooLarge
  Fault.NoFigure.divisionByZero Fault.NoFigure.zeroDivisor Fault.NoFigure.shockAboveWhole
  Fault.NoFigure.modelFactorTooHigh Fault.NoFigure.unlistedReference Fault.NoFigure.priceUnusable

/-- The work gives a result, or fails for want of a figure. -/
def Computes {α : Type} (x : Except Fault α) : Prop := ∀ f, x = .error f → f.NoFigure

/-! ## Steps -/

section Steps

variable {α β : Type} {x y : Except Fault α} {next : α → Except Fault β}

@[simp] theorem computes_ok (a : α) : Computes (.ok a) := fun _ h => nomatch h

@[simp] theorem computes_pure (a : α) : Computes (pure a) := computes_ok a

@[simp] theorem computes_error_iff {f : Fault} : Computes (.error f : Except Fault α) ↔ f.NoFigure :=
  ⟨fun h => h f rfl, fun h g hg => by cases hg; exact h⟩

@[simp] theorem computes_throw_iff {f : Fault} : Computes (throw f : Except Fault α) ↔ f.NoFigure :=
  computes_error_iff

@[simp] theorem computes_bind_iff :
    Computes (x >>= next) ↔ Computes x ∧ ∀ a, x = .ok a → Computes (next a) := by
  cases x with
  | ok a =>
    constructor
    · exact fun h => ⟨computes_ok a, fun b hb => by cases hb; exact h⟩
    · exact fun h => h.2 a rfl
  | error f =>
    constructor
    · exact fun h => ⟨computes_error_iff.2 (h f rfl), fun _ h => nomatch h⟩
    · exact fun h => computes_error_iff.2 (h.1 f rfl)

@[simp] theorem computes_map_iff {g : α → β} : Computes (g <$> x) ↔ Computes x := by
  cases x with
  | ok a => exact iff_of_true (computes_ok _) (computes_ok _)
  | error f => exact computes_error_iff.trans computes_error_iff.symm

@[simp] theorem computes_mapped_iff {g : α → β} : Computes (x.map g) ↔ Computes x := computes_map_iff

@[simp] theorem computes_ite_iff {c : Prop} [Decidable c] :
    Computes (if c then x else y) ↔ (c → Computes x) ∧ (¬ c → Computes y) := by
  by_cases h : c <;> simp [h]

theorem computes_foldlM {f : β → α → Except Fault β} (h : ∀ b a, Computes (f b a)) (as : List α)
    (b : β) : Computes (as.foldlM f b) := by
  induction as generalizing b with
  | nil => simp
  | cons a rest ih => simp [h, ih]

theorem Computes.answers {faults : Fault → Prop} (h : Computes x)
    (hfaults : ∀ f, f.NoFigure → faults f) : Answers faults (fun _ => True) x :=
  .of_faults fun f hf => hfaults f (h f hf)

end Steps

/-! ## Fixed-point arithmetic and interest -/

section Arithmetic

variable (a b : Int)

@[simp] theorem computes_requireNonNegative : Computes (requireNonNegative a) := by
  simp [requireNonNegative]

@[simp] theorem computes_mulChecked (unit half : Int) : Computes (mulChecked unit half a b) := by
  simp [mulChecked]

@[simp] theorem computes_divChecked (scale : Scale) (unit : Int) :
    Computes (divChecked scale unit a b) := by
  simp [divChecked]

@[simp] theorem computes_rayMul : Computes (rayMul a b) := computes_mulChecked a b _ _

@[simp] theorem computes_rayDiv : Computes (rayDiv a b) := computes_divChecked a b _ _

@[simp] theorem computes_percentMul : Computes (percentMul a b) := computes_mulChecked a b _ _

@[simp] theorem computes_wadToRay : Computes (wadToRay a) := by simp [wadToRay]

variable (rate last now : Int)

@[simp] theorem computes_linearFactor : Computes (linearFactor rate last now) := by
  simp [linearFactor, elapsed]

@[simp] theorem computes_compoundedFactor : Computes (compoundedFactor rate last now) := by
  simp [compoundedFactor, elapsed]

end Arithmetic

@[simp] theorem computes_utilization (availableLiquidity totalDebt : Int) :
    Computes (utilization availableLiquidity totalDebt) := by
  simp [utilization, requireInput]

@[simp] theorem RateInput.computes_requireNonNegative (s : RateInput) :
    Computes s.requireNonNegative := by
  simp [RateInput.requireNonNegative, requireInput]

@[simp] theorem Kinked.computes_rates (k : Kinked) (s : RateInput) : Computes (k.rates s) := by
  simp [Kinked.rates, borrowRates, overallBorrowRate]

@[simp] theorem Governed.computes_rates (g : Governed) (s : RateInput) : Computes (g.rates s) := by
  have hfactor : Computes (g.modelFactor s.reserveFactor) := by
    unfold modelFactor
    cases g.modelReserveFactor <;> simp [bpsToRay]
  simp [Governed.rates, hfactor, variableRate, liquidityRate]

@[simp] theorem RateStrategy.computes_rates (s : RateStrategy) (input : RateInput) :
    Computes (s.rates input) := by
  cases s with
  | kinked k => exact k.computes_rates input
  | governed g => exact g.computes_rates input

/-! ## Reserves and positions -/

section Records

variable (r : Reserve) (p : Position) (amount rate now : Int)

@[simp] theorem Reserve.computes_stableDebt : Computes (r.stableDebt now) := by
  simp [Reserve.stableDebt]

theorem Reserve.computes_accrue : Computes (r.accrue now) := by
  simp [accrue, accrualStages, requireNotBehind, growLiquidityIndex, growDebtIndex, creditTreasury,
    accruedInterest, previousStableDebt, deriveRates, derivedRates, storedVariableDebt, stamp]

@[simp] theorem Position.computes_supplyBalance : Computes (p.supplyBalance r now) := by
  simp [supplyBalance, Reserve.normalizedIncome]

@[simp] theorem Position.computes_variableDebt : Computes (p.variableDebt r now) := by
  simp [Position.variableDebt, Reserve.normalizedDebt]

@[simp] theorem Position.computes_stableDebt : Computes (p.stableDebt now) := by
  simp [Position.stableDebt]

@[simp] theorem Reserve.computes_updateStableRate (change : Int) :
    Computes (r.updateStableRate change rate now) := by
  simp [updateStableRate, stableAfterAdding, stableAfterRemoving, blendedRate]

end Records

/-! ## Bookings -/

namespace Ledger

variable (l : Ledger) (asset : Name)

theorem computes_bookReserve {stages : Reserve → List (Stage Reserve)}
    (h : ∀ r, Computes (Stage.perform (stages r) r)) :
    Computes (l.bookReserve asset stages).toExcept := by
  unfold bookReserve heldReserve
  cases l.reserve? asset with
  | none => exact computes_error_iff.2 (.missingReserve asset)
  | some r =>
    dsimp only
    rw [Progress.toExcept_map, Stage.toExcept_advance]
    exact computes_map_iff.2 (h r)

theorem computes_bookPosition (user : Name) {stages : List (Stage Reserve.WithPosition)}
    (h : ∀ rp, Computes (Stage.perform stages rp)) :
    Computes (l.bookPosition user asset stages).toExcept := by
  unfold bookPosition heldReserve
  cases l.reserve? asset with
  | none => exact computes_error_iff.2 (.missingReserve asset)
  | some r =>
    dsimp only
    rw [Progress.toExcept_map, Stage.toExcept_advance]
    exact computes_map_iff.2 (h _)

theorem computes_bookTransfer (source target : Name) (amount : Int) :
    Computes (l.bookTransfer source target asset amount).toExcept := by
  unfold bookTransfer heldReserve
  cases l.reserve? asset with
  | none => exact computes_error_iff.2 (.missingReserve asset)
  | some r =>
    dsimp only
    have hshare : Computes (r.transferShare
        (((l.openPosition source asset).openPosition target asset).position source asset) amount) := by
      simp [Reserve.transferShare, Reserve.scaledShare]
    split
    · rename_i f hf
      exact computes_error_iff.2 (hshare f hf)
    · exact computes_ok _

theorem computes_book (b : Booking) : Computes (l.book asset b).toExcept := by
  cases b with
  | accrue now => exact l.computes_bookReserve asset fun r => r.computes_accrue now
  | updateStableRate => exact l.computes_bookReserve asset (by simp)
  | money => exact l.computes_bookReserve asset (by simp)
  | mintSupply user => exact l.computes_bookPosition asset user (by simp [Reserve.mintSupply])
  | burnSupply user =>
    exact l.computes_bookPosition asset user (by simp [Reserve.burnSupply, Reserve.scaledShare])
  | transferSupply source target amount => exact l.computes_bookTransfer asset source target amount
  | mintVariableDebt user =>
    exact l.computes_bookPosition asset user (by simp [Reserve.mintVariableDebt])
  | burnVariableDebt user =>
    exact l.computes_bookPosition asset user
      (by simp [Reserve.burnVariableDebt, Reserve.scaledShare])
  | mintStableDebt user =>
    exact l.computes_bookPosition asset user (by
      simp [Reserve.stableDebtStages, Reserve.lendStable, Reserve.averageInStable,
        Reserve.blendedRate])
  | burnStableDebt user =>
    exact l.computes_bookPosition asset user (by simp [Reserve.burnStableDebt])

end Ledger

/-! ## Quantities -/

namespace Quantity

variable (a b : Quantity)

@[simp] theorem computes_toFloat : Computes a.toFloat := by
  unfold toFloat
  cases a with
  | whole n =>
    dsimp only
    split <;> simp
  | real x => simp

@[simp] theorem computes_combine (exact : Int → Int → Int) (rounded : Float → Float → Float) :
    Computes (combine exact rounded a b) := by
  cases a <;> cases b <;> simp [combine]

@[simp] theorem computes_add : Computes (a.add b) := computes_combine a b _ _

@[simp] theorem computes_sub : Computes (a.sub b) := computes_combine a b _ _

@[simp] theorem computes_mul : Computes (a.mul b) := computes_combine a b _ _

@[simp] theorem computes_floorDiv : Computes (a.floorDiv b) := by
  cases a <;> cases b <;> simp [floorDiv]

@[simp] theorem computes_requireNonNegative : Computes a.requireNonNegative := by
  simp [Quantity.requireNonNegative]

@[simp] theorem computes_divRounded (scale : Scale) (unit : Int) :
    Computes (divRounded scale unit a b) := by
  simp [divRounded]

@[simp] theorem computes_percentMul : Computes (a.percentMul b) := by
  cases a <;> cases b <;> simp [percentMul]

@[simp] theorem computes_percentDiv : Computes (a.percentDiv b) := by
  cases a <;> cases b <;> simp [percentDiv, FixedPoint.percentDiv]

@[simp] theorem computes_wadDiv : Computes (a.wadDiv b) := by
  cases a <;> cases b <;> simp [wadDiv, FixedPoint.wadDiv]

end Quantity

/-! ## Reports -/

@[simp] theorem computes_valueOf (price amount decimals : Int) :
    Computes (valueOf price amount decimals) := by
  simp [valueOf, tokenUnits]

@[simp] theorem PriceBoard.computes_requirePrice (board : PriceBoard) (asset : Name) :
    Computes (board.requirePrice asset) := by
  simp [requirePrice, usable]

@[simp] theorem computes_averageBy (parameter : Contribution → Int) (cs : List Contribution)
    (total : Quantity) : Computes (averageBy parameter cs total) := by
  have hsum : Computes (sumOf (fun c => Quantity.mul (.whole (parameter c)) c.value) cs) :=
    computes_foldlM (by simp) cs _
  simp [averageBy, hsum]

theorem SolvencyReport.computes_of (cs : List Contribution) (debt : Quantity)
    (margin : Option MarginSnapshot) : Computes (SolvencyReport.of cs debt margin) := by
  have htotal : Computes (totalValue cs) := computes_foldlM (by simp) cs _
  simp [SolvencyReport.of, htotal, MoneyMarket.healthFactor, availableBorrows]

namespace Ledger

variable (l : Ledger) (s : Surroundings) (user : Key) (now : Int)

theorem computes_assess (r : Reserve) (p : Position) : Computes (assess s r p now) := by
  simp [assess, debtValue]

theorem computes_assessAll : Computes (l.assessAll s user now) := by
  apply computes_foldlM
  intro sofar entry
  unfold assessNext
  split <;> simp [computes_assess]

theorem computes_referenceValue (amount : Int) : Computes (l.referenceValue s amount) := by
  unfold referenceValue
  dsimp only
  split <;> simp

theorem computes_marginCollateralValue : Computes (l.marginCollateralValue s user) := by
  simp [marginCollateralValue, computes_referenceValue]

theorem computes_marginContribution : Computes (l.marginContribution s user) := by
  simp [marginContribution, computes_referenceValue]

theorem computes_solvency : Computes (l.solvency s user now) := by
  simp [solvency, solvencyUsing, computes_assessAll, computes_marginContribution,
    SolvencyReport.computes_of]

end Ledger

end MoneyMarket
