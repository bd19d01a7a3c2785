import MoneyMarket.Proofs.Figures
import MoneyMarket.Proofs.Liquidation.Margin
import MoneyMarket.Proofs.Liquidation.Planning

/-!
# Liquidations among whole tokens

Ledgers are described in whole numbers, and a liquidation that moves anything else ends the
description with a fault. Among whole tokens there is none: whatever is planned is whole, and no
other step ends like that.
-/

namespace MoneyMarket

open MoneyMarket.LedgerWork

/-- A fault that the market has. -/
def Fault.Described (f : Fault) : Prop := f ≠ .notBookable

theorem refused_described (cause : Refusal) : Fault.Described (.refused cause) := nofun

theorem Computes.described {α : Type} {x : Except Fault α} (h : Computes x) :
    Answers Fault.Described (fun _ => True) x := by
  apply h.answers
  rintro f hf rfl
  cases hf

namespace Ledger

variable {l : Ledger} {s : Surroundings} {params : LiquidationParams} {now : Int}

/-! ## Plans -/

theorem computes_supplyOf (user asset : Key) (r : Reserve) :
    Computes (l.supplyOf user asset r now) := by
  unfold supplyOf
  split <;> simp

theorem computes_debtsOf (user asset : Key) (r : Reserve) :
    Computes (l.debtsOf user asset r now) := by
  unfold debtsOf
  split <;> simp

theorem computes_collateralToSeize {prices : PriceBoard} {collateralAsset debtAsset : Name}
    {collateralDecimals debtDecimals debtToCover bonus : Int} {available : Quantity} :
    Computes (collateralToSeize prices collateralAsset collateralDecimals debtAsset debtDecimals
      debtToCover bonus available) := by
  simp [collateralToSeize, SeizureTerms.seize, SeizureTerms.collateralFor, SeizureTerms.debtFor,
    tokenUnits]

theorem planLiquidation_described (borrower debtAsset : Name) (debtToCover : Int) (usable : Bool) :
    Answers Fault.Described (fun _ => True)
      (l.planLiquidation s params borrower debtAsset debtToCover now usable) := by
  unfold planLiquidation
  apply Answers.guard (refused_described _)
  intro _
  apply (l.computes_solvency s borrower now).described.andThen
  intro _ _
  apply Answers.guard (refused_described _)
  intro _
  apply Answers.guard (refused_described _)
  intro _
  apply (reserve_answers refused_described l debtAsset).andThen
  intro r _
  apply (computes_debtsOf borrower debtAsset r).described.andThen
  intro _ _
  apply Answers.guard (refused_described _)
  intro _
  exact (computes_percentMul _ _).described.andThen fun _ _ => trivial

theorem planStandardLiquidation_described (hwhole : l.WholeTokens) (c : LiquidationCall) :
    Answers Fault.Described
      (fun result => ∃ repaid seized,
        result.debtRepaid = .whole repaid ∧ result.collateralSeized = .whole seized)
      (l.planStandardLiquidation s params c now) := by
  have hplanned : Answers Fault.Described (fun _ => True)
      (l.planStandardLiquidation s params c now) := by
    unfold planStandardLiquidation
    apply (reserve_answers refused_described l c.collateralAsset).andThen
    intro collateral _
    apply (reserve_answers refused_described l c.debtAsset).andThen
    intro debt _
    apply (requireOpen_answers refused_described collateral debt).andThen
    intro _ _
    apply (computes_supplyOf c.borrower c.collateralAsset collateral).described.andThen
    intro balance _
    apply (planLiquidation_described c.borrower c.debtAsset c.debtToCover _).andThen
    intro plan _
    apply computes_collateralToSeize.described.andThen
    intro _ _
    exact Answers.guard (refused_described _) fun _ => trivial
  apply hplanned.with_ok.mono
  rintro result ⟨hresult, -⟩
  exact planStandardLiquidation_amounts hwhole hresult

theorem availableMarginCollateral_described (user : Key) (asset : Name) :
    Answers Fault.Described (fun _ => True) (l.availableMarginCollateral s user asset) := by
  unfold availableMarginCollateral
  split
  · trivial
  · dsimp only
    split
    · trivial
    · apply (l.computes_marginCollateralValue s user).described.andThen
      intro value _
      apply (reserve_answers refused_described l asset).andThen
      intro r _
      apply Computes.described
      simp [tokenUnits]

theorem planMarginLiquidation_described (hwhole : l.WholeTokens) (m : MarginLiquidation) :
    Answers Fault.Described (fun result => ∃ repaid, result.debtRepaid = .whole repaid)
      (l.planMarginLiquidation s params m now) := by
  have hplanned : Answers Fault.Described (fun _ => True)
      (l.planMarginLiquidation s params m now) := by
    unfold planMarginLiquidation
    apply Answers.guard (refused_described _)
    intro _
    apply (reserve_answers refused_described l m.debtAsset).andThen
    intro debt _
    apply (reserve_answers refused_described l m.collateralAsset).andThen
    intro collateral _
    apply (requireOpen_answers refused_described collateral debt).andThen
    intro _ _
    apply (availableMarginCollateral_described m.borrower m.collateralAsset).andThen
    intro available _
    apply (planLiquidation_described m.borrower m.debtAsset m.debtToCover _).andThen
    intro plan _
    apply computes_collateralToSeize.described.andThen
    intro _ _
    exact Answers.guard (refused_described _) fun _ => trivial
  apply hplanned.with_ok.mono
  rintro result ⟨hresult, -⟩
  obtain ⟨f, hrepaid, -⟩ := planMarginLiquidation_figures hwhole hresult
  exact ⟨f.repaid, hrepaid⟩

end Ledger

/-! ## Work -/

namespace LedgerWork

variable {l : Ledger} {s : Surroundings} {params : LiquidationParams} {now : Int}

theorem book_described (l : Ledger) (asset : Name) (b : Ledger.Booking) :
    Ends Fault.Described (fun _ _ => True) (book asset b) l := by
  have hbook := l.computes_book asset b
  unfold Ends book
  generalize l.book asset b = progress at hbook ⊢
  obtain ⟨m, _ | f⟩ := progress
  · trivial
  · exact Computes.described hbook

theorem repayDebt_described (user asset : Name) (amount : Int) :
    Ends Fault.Described (fun _ _ => True) (repayDebt user asset amount now) l := by
  unfold repayDebt
  apply Ends.opening
  apply Ends.position
  apply Ends.lift (Position.computes_stableDebt _ now).described
  intro debt _
  dsimp only
  split <;> split
  · exact (book_described _ asset _).andThen fun _ n _ => book_described n asset _
  · exact (book_described _ asset _).andThen fun _ _ _ => trivial
  · exact book_described _ asset _
  · trivial

theorem settleDebt_described (user asset : Name) (amount : Int) :
    Ends Fault.Described (fun _ _ => True) (settleDebt user asset amount now) l := by
  unfold settleDebt
  apply (book_described l asset _).andThen
  intro _ m _
  apply (repayDebt_described user asset amount).andThen
  intro _ n _
  apply (book_described n asset _).andThen
  intro _ k _
  exact book_described k asset _

theorem payOutCollateral_described (borrower asset : Name) (seized : Int) :
    Ends Fault.Described (fun _ _ => True) (payOutCollateral borrower asset seized) l :=
  (book_described l asset _).andThen fun _ n _ => book_described n asset _

theorem handOverCollateral_described (borrower asset : Name) (liquidator : Json) (seized : Int) :
    Ends Fault.Described (fun _ _ => True)
      (handOverCollateral borrower asset liquidator seized) l := by
  have hnamed : Answers Fault.Described (fun _ => True) liquidator.named := by
    unfold Json.named
    split
    · trivial
    · nofun
  unfold handOverCollateral
  apply Ends.lift hnamed
  intro name _
  apply Ends.position
  apply (book_described l asset _).andThen
  intro _ n _
  split <;> trivial

theorem retireEmptyCollateral_described (user asset : Name) :
    Ends Fault.Described (fun _ _ => True) (retireEmptyCollateral user asset) l := by
  unfold retireEmptyCollateral
  apply Ends.position
  split <;> trivial

theorem moveCollateral_described (c : LiquidationCall) (seized : Int) :
    Ends Fault.Described (fun _ _ => True) (moveCollateral c seized now) l := by
  have hrest (m : Ledger) : Ends Fault.Described (fun _ _ => True) (do
      book c.collateralAsset (.accrue now)
      retireEmptyCollateral c.borrower c.collateralAsset) m :=
    (book_described m c.collateralAsset _).andThen fun _ _ _ =>
      retireEmptyCollateral_described c.borrower c.collateralAsset
  unfold moveCollateral
  apply (book_described l c.collateralAsset _).andThen
  intro _ m _
  split
  · exact (payOutCollateral_described c.borrower c.collateralAsset seized).andThen
      fun _ n _ => hrest n
  · exact (handOverCollateral_described c.borrower c.collateralAsset c.liquidator seized).andThen
      fun _ n _ => hrest n

/-- A liquidation among whole tokens moves whole amounts, or it fails as the market does. -/
theorem liquidate_described (hwhole : l.WholeTokens) (c : LiquidationCall) :
    Ends Fault.Described (fun _ _ => True) (liquidate s params c now) l := by
  unfold liquidate
  apply Ends.check (Ledger.planStandardLiquidation_described hwhole c)
  rintro result ⟨repaid, seized, hrepaid, hseized⟩
  rw [hrepaid, hseized]
  apply Ends.lifted rfl
  apply Ends.lifted rfl
  apply (settleDebt_described c.borrower c.debtAsset repaid).andThen
  intro _ m _
  exact (moveCollateral_described c seized).andThen fun _ _ _ => trivial

theorem liquidateMargin_described (hwhole : l.WholeTokens) (m : MarginLiquidation) :
    Ends Fault.Described (fun _ _ => True) (liquidateMargin s params m now) l := by
  unfold liquidateMargin
  apply Ends.check (Ledger.planMarginLiquidation_described hwhole m)
  rintro result ⟨repaid, hrepaid⟩
  rw [hrepaid]
  apply Ends.lifted rfl
  exact (settleDebt_described m.borrower m.debtAsset repaid).andThen fun _ _ _ => trivial

end LedgerWork

end MoneyMarket
