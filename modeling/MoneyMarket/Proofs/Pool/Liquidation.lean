import MoneyMarket.Proofs.Liquidation
import MoneyMarket.Proofs.Pool.Bystander

/-!
# Liquidations of supplied collateral

What a liquidation moves is what it reports, within the limits of one call: the debt of the borrower
and the money of the two reserves, and the supply that is seized. Crediting the treasury at the end
is of no concern to any of these.
-/

namespace MoneyMarket

open MoneyMarket.FixedPoint

namespace Pool

open MoneyMarket.Ledger MoneyMarket.LedgerWork

variable {p : Pool} {c : LiquidationCall}

theorem moved_credited {f : LiquidationFigures} {l m : Ledger} {now : Int} {treasury : Key}
    (h : f.Moved l m c now) (ht : c.borrower.key ≠ treasury) :
    f.Moved l (creditTreasury treasury m) c now := by
  have hsame : SameFor now c.borrower m (creditTreasury treasury m) := creditTreasury_sameFor ht m
  have hliquidity := owed_creditTreasury (f := Reserve.availableLiquidity) (fun _ => rfl) treasury m
  obtain ⟨left, howes, hlowered⟩ := h.debts
  obtain ⟨left', hholds, hlowered'⟩ := h.supply
  refine ⟨?_, ?_, ⟨left, hsame.owes howes, ?_⟩, left', hsame.holds hholds, ?_⟩
  · intro a
    rw [hliquidity]
    exact h.liquidity a
  · rw [hliquidity, hliquidity]
    exact h.covered
  · rwa [owed_creditTreasury fun _ => rfl]
  · rwa [owed_creditTreasury fun _ => rfl]

/-- **What a liquidation moves.** The account was liquidatable. No more is repaid than was asked for
and than the close factor allows of the debts, nor more seized than was supplied. The reserves gain
and lose just that, and never more than they have. Stable debt is repaid first, and exactly; the
variable debt and the supply are lower by their parts up to rounding, and gone if these are all. -/
theorem liquidation_moves (h : Reachable p) (hclose : p.params.liquidation.closeFactor ≤ whole)
    (hother : ∀ name, c.liquidator.named = .ok name → name.key ≠ c.borrower.key)
    (ht : c.borrower.key ≠ .text p.params.treasury) {answer : Outcome}
    (hdone : (p.perform (.liquidate c)).2 = .ok answer) :
    ∃ (result : LiquidationResult) (f : LiquidationFigures), answer = .liquidated result ∧
      f.Reported result ∧ f.Shown p.ledger p.surroundings c p.clock ∧
      f.Within p.params.liquidation c ∧
      f.Moved p.ledger (p.after (.liquidate c)).ledger c p.clock := by
  have htx : p.transaction? (.liquidate c) = some ((·.answer .liquidated) <$> p.liquidating c) := rfl
  unfold after
  rw [perform_transaction htx] at hdone ⊢
  obtain ⟨receipt, m, hw, rfl, hcommit⟩ := transact_done hdone
  rw [hcommit]
  obtain ⟨_, hliquidating, rfl⟩ := map_done hw
  unfold liquidating at hliquidating
  simp only [bind_eq_ok, lift_eq_ok, done_eq_ok, and_assoc, exists_and_left, exists_eq_left]
    at hliquidating
  obtain ⟨_, _, result, _, hliquidate, rfl, rfl⟩ := hliquidating
  obtain ⟨f, hreported, hshown, hwithin, hmoved⟩ :=
    liquidate_moved h.attainable.timely h.whole hclose hother hliquidate
  exact ⟨result, f, rfl, hreported, hshown, hwithin, moved_credited hmoved ht⟩

def underWater : List Operation :=
  [.initReserve .dai (.kinked .stableTwo),
    .initReserve { ReserveConfig.weth with stableBorrowingEnabled := true } (.kinked .stableTwo),
    .setPrice (.text "DAI") (.whole wad),
    .setPrice (.text "WETH") (.whole wad),
    .deposit (.text "WETH") 10000 (.text "carol"),
    .deposit (.text "DAI") 1000 (.text "ana"),
    .borrow (.text "WETH") 300 1 (.text "ana"),
    .borrow (.text "WETH") 400 2 (.text "ana"),
    .setPrice (.text "WETH") (.whole 1200000000000000000)]

/-- A call to cover all debt in WETH covers half of it: all stable debt and fifty of the other. -/
theorem liquidation_of_both_debts :
    let p := run {} underWater
    let c : LiquidationCall := {
      collateralAsset := .text "DAI", debtAsset := .text "WETH", borrower := .text "ana"
      debtToCover := 700, liquidator := .text "dan" }
    let op := Operation.liquidate c
    (p.after op).ledger.owed Reserve.availableLiquidity (.text "WETH") = 9650 ∧
      ((p.after op).ledger.position (.text "ana") (.text "WETH")).principalStableDebt = 0 ∧
      ((p.after op).ledger.position (.text "ana") (.text "WETH")).scaledVariableDebt = 350 ∧
      ((p.after op).ledger.position (.text "ana") (.text "DAI")).scaledBalance = 559 ∧
      ∃ (result : LiquidationResult) (f : LiquidationFigures),
        (p.perform op).2 = .ok (.liquidated result) ∧ f.Reported result ∧
        f.Shown p.ledger p.surroundings c p.clock ∧ f.Within p.params.liquidation c ∧
        f.Moved p.ledger (p.after op).ledger c p.clock := by
  intro p c op
  have hreachable : Reachable p := ⟨⟨{}, 0, underWater, rfl⟩, by decide +kernel⟩
  have hdone : (p.perform op).2.toOption.isSome := by decide +kernel
  refine ⟨by decide +kernel, by decide +kernel, by decide +kernel, by decide +kernel, ?_⟩
  cases hanswer : (p.perform op).2 with
  | error f => simp [hanswer, Except.toOption] at hdone
  | ok answer =>
    have hother : ∀ name, c.liquidator.named = .ok name → name.key ≠ c.borrower.key := by
      intro name hname
      cases hname
      decide
    obtain ⟨result, f, rfl, hfigures⟩ := liquidation_moves hreachable (by decide +kernel)
      hother (by decide) hanswer
    exact ⟨result, f, rfl, hfigures⟩

/-- Collateral of which a part counts in units that are too large for any number. -/
def pledgedBeyondNumbers : List Operation :=
  [.initReserve .dai (.kinked .stableTwo),
    .initReserve .weth (.kinked .weth),
    .initReserve { ReserveConfig.dai with symbol := .text "Z", decimals := -300 }
      (.kinked .stableTwo),
    .setPrice (.text "DAI") (.whole wad),
    .setPrice (.text "WETH") (.whole wad),
    .setPrice (.text "Z") (.whole wad),
    .deposit (.text "WETH") 10000 (.text "carol"),
    .deposit (.text "DAI") 1000 (.text "ana"),
    .borrow (.text "WETH") 700 2 (.text "ana"),
    .deposit (.text "Z") wad (.text "ana")]

/-- An account can be liquidated whose health factor is not below one, but no number at all. -/
theorem liquidation_without_number :
    let p := run {} pledgedBeyondNumbers
    let op := Operation.liquidate {
      collateralAsset := .text "DAI", debtAsset := .text "WETH", borrower := .text "ana"
      debtToCover := 100, liquidator := .text "dan" }
    Attainable p ∧ p.params.liquidation.closeFactor ≤ whole ∧ (p.perform op).2.toOption.isSome ∧
      (p.healthFactor? (.text "ana")).isSome ∧
      (p.healthFactor? (.text "ana")).any (·.lt (.whole wad)) = false := by
  refine ⟨⟨{}, 0, pledgedBeyondNumbers, rfl⟩, ?_, ?_, ?_, ?_⟩ <;> decide +kernel

end Pool

end MoneyMarket
