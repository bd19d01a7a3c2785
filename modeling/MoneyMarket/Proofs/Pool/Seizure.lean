import MoneyMarket.Proofs.Liquidation.Margin
import MoneyMarket.Proofs.Pool.Completed
import MoneyMarket.Proofs.Pool.Timely

/-!
# Collateral for nothing

A supply that is too small to cover the debt is seized as a whole, and what is repaid for it is cut
to whole units of the debt, which may be none. A margin liquidation is refused then; a liquidation
of supplied collateral goes through. Here is exactly when.
-/

namespace MoneyMarket

open MoneyMarket.FixedPoint

/-! ## Seizure -/

namespace SeizureTerms

variable {t : SeizureTerms} {cover supply m n : Int}

/-- The supply does not cover the debt, and is worth less than half of the smallest unit in which
debt is counted, after the bonus. -/
structure GivesNothing (t : SeizureTerms) (cover supply : Int) : Prop where
  short : supply < t.wanted cover
  worthless : 2 * (whole * t.worth supply) < t.bonus

instance (t : SeizureTerms) (cover supply : Int) : Decidable (t.GivesNothing cover supply) :=
  decidable_of_iff (supply < t.wanted cover ∧ 2 * (whole * t.worth supply) < t.bonus)
    ⟨fun ⟨h₁, h₂⟩ => ⟨h₁, h₂⟩, fun ⟨h₁, h₂⟩ => ⟨h₁, h₂⟩⟩

/-- A seizure repays something, or it takes the whole supply for nothing. -/
theorem seize_cases (ht : t.Usable) (hcover : 0 < cover)
    (h : t.seize cover (.whole supply) = .ok (.whole m, .whole n)) :
    t.GivesNothing cover supply ∧ m = supply ∧ n = 0 ∨ ¬ t.GivesNothing cover supply ∧ 0 < n := by
  unfold seize at h
  obtain ⟨_, hwanted, h⟩ := bind_ok_iff.1 h
  obtain ⟨rfl, _⟩ := collateralFor_whole ht hwanted
  rw [Quantity.le_whole] at h
  split at h
  · rename_i hfits
    have hfits := of_decide_eq_true hfits
    cases h
    exact .inr ⟨fun hnothing => absurd hnothing.short (by omega), hcover⟩
  · rename_i hshort
    have hshort : supply < t.wanted cover := by simpa using hshort
    obtain ⟨_, hcovered, h⟩ := bind_ok_iff.1 h
    obtain ⟨hworth, hbonus, rfl⟩ := debtFor_whole ht hcovered
    have hnonneg := divRound_nonneg (show 0 ≤ whole by decide) hworth (Int.le_of_lt hbonus)
    have hone := le_divRound_iff whole hbonus (a := t.worth supply) (n := 1)
    rw [Quantity.least_whole] at h
    cases h
    by_cases hworthless : 2 * (whole * t.worth supply) < t.bonus
    · refine .inl ⟨⟨hshort, hworthless⟩, rfl, ?_⟩
      have hzero := mt hone.1 (by rw [Int.mul_comm _ whole]; omega)
      omega
    · refine .inr ⟨fun hnothing => hworthless hnothing.worthless, ?_⟩
      have hsome := hone.2 (by rw [Int.mul_comm _ whole]; omega)
      omega

end SeizureTerms

/-! ## Calls -/

/-- What a call finds: the terms of the seizure, the debt that it may cover, and the supply. -/
structure Seizure where
  terms : SeizureTerms
  cover : Int
  supply : Int
  deriving DecidableEq, Repr

namespace Ledger

variable {l : Ledger} {s : Surroundings} {params : LiquidationParams} {c : LiquidationCall}
variable {now : Int} {result : LiquidationResult}

def seizure (l : Ledger) (s : Surroundings) (params : LiquidationParams) (c : LiquidationCall)
    (now : Int) : Except Fault Seizure := do
  let collateral ← l.reserve c.collateralAsset
  let debt ← l.reserve c.debtAsset
  let supply ← l.supplyOf c.borrower c.collateralAsset collateral now
  let plan ← l.planLiquidation s params c.borrower c.debtAsset c.debtToCover now
    (l.seizable c.borrower c.collateralAsset collateral supply)
  let terms := {
    collateralPrice := ← s.prices.requirePrice c.collateralAsset
    collateralDecimals := collateral.config.decimals
    debtPrice := ← s.prices.requirePrice c.debtAsset
    debtDecimals := debt.config.decimals
    bonus := collateral.config.liquidationBonus }
  return { terms, cover := plan.debtToCover, supply }

theorem half_le_closeFactorAt (hshare : halfWhole ≤ params.closeFactor) {q : Quantity}
    (hunhealthy : (Quantity.whole wad).le q = false) : halfWhole ≤ params.closeFactorAt q := by
  unfold LiquidationParams.closeFactorAt
  rw [hunhealthy, if_neg (by decide)]
  split
  · decide
  · exact hshare

theorem planLiquidation_cover_pos (hshare : halfWhole ≤ params.closeFactor)
    {borrower debtAsset : Name} {debtToCover : Int} {usable : Bool} {plan : LiquidationPlan}
    (h : l.planLiquidation s params borrower debtAsset debtToCover now usable = .ok plan) :
    0 < plan.debtToCover := by
  obtain ⟨report, hpositive, _, hunhealthy, _, _, _, howing, hmost, hcover⟩ := planLiquidation_ok h
  obtain ⟨hdebts, _, hmost⟩ := percentMul_ok_iff.1 hmost
  have hpos := percentRound_pos (show 0 < plan.stableDebt + plan.variableDebt by omega)
    (half_le_closeFactorAt hshare hunhealthy)
  omega

theorem planStandardLiquidation_seizure (hwhole : l.WholeTokens)
    (hshare : halfWhole ≤ params.closeFactor)
    (h : l.planStandardLiquidation s params c now = .ok result) :
    ∃ x : Seizure, l.seizure s params c now = .ok x ∧ x.terms.Usable ∧ 0 < x.cover ∧ 0 < x.supply ∧
      x.terms.seize x.cover (.whole x.supply) = .ok (result.collateralSeized, result.debtRepaid) := by
  obtain ⟨collateral, debt, supply, plan, collateralPrice, debtPrice, hcollateral, hdebt, _, hsupply,
    hplan, hcollateralPrice, hdebtPrice, hseize, _⟩ := planStandardLiquidation_ok h
  obtain ⟨_, _, _, _, hseizable, _⟩ := planLiquidation_ok hplan
  refine ⟨⟨⟨collateralPrice, collateral.config.decimals, debtPrice, debt.config.decimals,
    collateral.config.liquidationBonus⟩, plan.debtToCover, supply⟩, ?_, ?_, ?_, ?_, hseize⟩
  · simp only [seizure, reserve_ok_iff.2 hcollateral, reserve_ok_iff.2 hdebt, hsupply, hplan,
      hcollateralPrice, hdebtPrice, ok_bind]
    rfl
  · exact hwhole.usable hcollateral hdebt hcollateralPrice hdebtPrice _
  · exact planLiquidation_cover_pos hshare hplan
  · unfold seizable at hseizable
    cases hpos : l.position? c.borrower c.collateralAsset <;> simp [hpos] at hseizable
    exact hseizable.2

end Ledger

namespace Pool

open MoneyMarket.Ledger MoneyMarket.LedgerWork

variable {p : Pool} {c : LiquidationCall} {result : LiquidationResult}

def seizure (p : Pool) (c : LiquidationCall) : Except Fault Seizure :=
  p.ledger.seizure p.surroundings p.params.liquidation c p.clock

/-- The call finds a supply that gives nothing. -/
def TakesForNothing (p : Pool) (c : LiquidationCall) : Prop :=
  ∃ x, p.seizure c = .ok x ∧ x.terms.GivesNothing x.cover x.supply

instance (p : Pool) (c : LiquidationCall) : Decidable (p.TakesForNothing c) := decidableResult

theorem liquidate_planned (hdone : (p.perform (.liquidate c)).2 = .ok (.liquidated result)) :
    p.ledger.planStandardLiquidation p.surroundings p.params.liquidation c p.clock = .ok result ∧
      ∃ repaid seized, result.debtRepaid = .whole repaid ∧ result.collateralSeized = .whole seized := by
  have htx : p.transaction? (.liquidate c) = some ((·.answer .liquidated) <$> p.liquidating c) := rfl
  rw [perform_transaction htx] at hdone
  obtain ⟨_, _, hw, hanswer, _⟩ := transact_done hdone
  obtain ⟨_, hliquidating, rfl⟩ := map_done hw
  obtain ⟨_, hliquidate, rfl⟩ := liquidating_completed hliquidating
  cases hanswer
  obtain ⟨hplan, repaid, seized, _, hrepaid, hseized, _⟩ := liquidate_completed hliquidate
  exact ⟨hplan, repaid, seized, Quantity.booked_ok_iff.1 hrepaid, Quantity.booked_ok_iff.1 hseized⟩

/-- **What is seized is paid for.** Among whole tokens, a liquidation that takes collateral repays some
debt, unless the call finds a supply that gives nothing: at any prices, decimals, balances and bonus,
this is the only exception. -/
theorem liquidation_repays_iff (hwhole : p.ledger.WholeTokens)
    (hshare : halfWhole ≤ p.params.liquidation.closeFactor)
    (hdone : (p.perform (.liquidate c)).2 = .ok (.liquidated result)) :
    (result.collateralSeized.isPositive → result.debtRepaid.isPositive) ↔ ¬ p.TakesForNothing c := by
  obtain ⟨hplan, repaid, seized, hrepaid, hseized⟩ := liquidate_planned hdone
  obtain ⟨x, hx, husable, hcover, hsupply, hseize⟩ :=
    planStandardLiquidation_seizure hwhole hshare hplan
  rw [hseized, hrepaid] at hseize ⊢
  have htakes : p.TakesForNothing c ↔ x.terms.GivesNothing x.cover x.supply := by
    constructor
    · rintro ⟨y, hy, hnothing⟩
      cases hx.symm.trans hy
      exact hnothing
    · intro hnothing
      exact ⟨x, hx, hnothing⟩
  rw [htakes]
  simp only [Quantity.isPositive_whole, decide_eq_true_eq]
  rcases SeizureTerms.seize_cases husable hcover hseize with
    ⟨hnothing, rfl, rfl⟩ | ⟨hsome, hpos⟩
  · simp [hnothing, hsupply]
  · simp [hsome, hpos]

instance decidableLiquidated {x : Except Fault Outcome} {P : LiquidationResult → Prop}
    [DecidablePred P] : Decidable (∃ result, x = .ok (.liquidated result) ∧ P result) :=
  match x with
  | .ok (.liquidated result) =>
    decidable_of_iff (P result)
      ⟨fun h => ⟨result, rfl, h⟩, fun ⟨_, hx, h⟩ => by cases hx; exact h⟩
  | .ok .done | .ok (.amount _) | .ok (.stored _) | .ok (.time _) | .error _ =>
    .isFalse fun ⟨_, hx, _⟩ => by cases hx

/-- A debt in a token of six decimals, and beside the collateral for it some dust of a token of
eighteen. -/
def dustBeside : List Operation :=
  [.initReserve .usdc (.kinked .stableTwo),
    .initReserve .dai (.kinked .stableTwo),
    .initReserve .weth (.kinked .weth),
    .setPrice (.text "USDC") (.whole 500000000000000),
    .setPrice (.text "DAI") (.whole 500000000000000),
    .setPrice (.text "WETH") (.whole wad),
    .deposit (.text "USDC") 100000000000 (.text "carol"),
    .deposit (.text "WETH") 10000000000000000000 (.text "ana"),
    .deposit (.text "DAI") 500000000000 (.text "ana"),
    .borrow (.text "USDC") 15000000000 2 (.text "ana"),
    .setPrice (.text "WETH") (.whole 900000000000000000)]

def callFor (asset : Name) : LiquidationCall where
  collateralAsset := asset
  debtAsset := .text "USDC"
  borrower := .text "ana"
  debtToCover := 15000000000

theorem weth_paid_for :
    let p := run {} dustBeside
    let c := callFor (.text "WETH")
    p.ledger.WholeTokens ∧ halfWhole ≤ p.params.liquidation.closeFactor ∧
      ¬ p.TakesForNothing c ∧ ∃ result,
      (p.perform (.liquidate c)).2 = .ok (.liquidated result) ∧
      result.collateralSeized.isPositive ∧ result.debtRepaid.isPositive := by
  intro p c
  have hwhole : p.ledger.WholeTokens := by decide +kernel
  have hshare : halfWhole ≤ p.params.liquidation.closeFactor := by decide +kernel
  have hpaid : ¬ p.TakesForNothing c := by decide +kernel
  obtain ⟨result, hdone, hseized⟩ : ∃ result, (p.perform (.liquidate c)).2 =
      .ok (.liquidated result) ∧ result.collateralSeized.isPositive := by decide +kernel
  exact ⟨hwhole, hshare, hpaid, result, hdone, hseized,
    (liquidation_repays_iff hwhole hshare hdone).2 hpaid hseized⟩

/-- With the parameters as shipped the dust is taken as a whole, and nothing is repaid. -/
theorem dust_taken_for_nothing :
    let p := run {} dustBeside
    let c := callFor (.text "DAI")
    Reachable p ∧ p.params.liquidation = {} ∧ ∃ result,
      (p.perform (.liquidate c)).2 = .ok (.liquidated result) ∧
      result.collateralSeized = .whole 500000000000 ∧ result.debtRepaid = .whole 0 := by
  refine ⟨⟨⟨{}, 0, dustBeside, rfl⟩, ?_⟩, ?_, ?_⟩ <;> decide +kernel

end Pool

end MoneyMarket
