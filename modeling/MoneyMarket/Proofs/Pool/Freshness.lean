import MoneyMarket.Proofs.Pool.Rounds

/-!
# Rates are never stale

Rates are stored, and every change of an amount calls for others. In every pool that a new one can
become, the rates of a kinked strategy are nevertheless those of the amounts that are stored.
-/

namespace MoneyMarket.Pool

open MoneyMarket.Reserve

variable {p : Pool} {op : Operation} {a : Key} {s : Reserve}

theorem Succeeds.fresh (h : Succeeds p op a s)
    (hp : ∀ r, p.ledger.reserve? a = some r → ∀ k, r.strategy = .kinked k → r.Fresh) :
    ∀ k, s.strategy = .kinked k → s.Fresh := by
  cases h with
  | proceeds hr h =>
    induction h with
    | refl => exact hp _ hr
    | tail _ hlast ih => exact hlast.fresh ih
  | listed _ _ _ h => exact fun _ _ => accrue_fresh h

theorem Attainable.fresh (h : Attainable p) :
    ∀ a r, p.ledger.reserve? a = some r → ∀ k, r.strategy = .kinked k → r.Fresh := by
  apply h.induct (I := fun q =>
    ∀ a r, q.ledger.reserve? a = some r → ∀ k, r.strategy = .kinked k → r.Fresh)
  · intro _ _ a r hr
    rw [Ledger.reserve?_empty] at hr
    cases hr
  · intro q op hq a s hs
    exact (after_inherits q op a s hs).fresh (hq a)

/-- **Rates are never stale.** The stored rates of a kinked strategy are those that it gives to the
stored state, so an accrual at the time of the last one changes nothing. After an accrual of any
reserve a second one at the same time is done, too, and changes nothing. -/
theorem rates_never_stale (h : Reachable p) :
    (∀ a r k, p.ledger.reserve? a = some r → r.strategy = .kinked k →
      (∃ stable floating, r.stableDebt r.lastUpdateTimestamp = .ok stable ∧
        r.storedVariableDebt = .ok floating ∧
        k.rates {
            availableLiquidity := r.availableLiquidity
            totalStableDebt := stable
            totalVariableDebt := floating
            averageStableRate := r.averageStableRate
            reserveFactor := r.config.reserveFactor } = .ok {
          liquidityRate := r.currentLiquidityRate
          stableBorrowRate := r.currentStableBorrowRate
          variableBorrowRate := r.currentVariableBorrowRate }) ∧
      r.accrue r.lastUpdateTimestamp = .ok r) ∧
    ∀ (r : Reserve) now s, r.accrue now = .ok s → s.accrue now = .ok s := by
  refine ⟨?_, fun _ _ _ => accrue_again⟩
  intro a r k hr hk
  have hfresh := h.attainable.fresh a r hr k hk
  refine ⟨?_, hfresh.accrue⟩
  unfold Fresh derivedRates at hfresh
  simp only [hk, bind_ok_iff] at hfresh
  obtain ⟨stable, hstable, floating, hfloating, hrates⟩ := hfresh
  exact ⟨stable, floating, hstable, hfloating, hrates⟩

def repaidAfterAYear : List Operation :=
  [.initReserve { ReserveConfig.dai with stableBorrowingEnabled := true } (.kinked .stableTwo),
    .initReserve .weth (.kinked .weth),
    .setPrice (.text "DAI") (.whole 1000000000000000000),
    .setPrice (.text "WETH") (.whole 2000000000000000000000),
    .deposit (.text "DAI") 1000000000000000000000000 (.text "ben"),
    .deposit (.text "WETH") 100000000000000000000 (.text "ana"),
    .borrow (.text "DAI") 1000000000000000000000 1 (.text "ana"),
    .borrow (.text "DAI") 2000000000000000000000 2 (.text "ana"),
    .advanceTime 31536000,
    .repay (.text "DAI") 500000000000000000000 1 (.text "ana")]

theorem rates_after_repayment :
    let p := run {} repaidAfterAYear
    ∃ r, p.ledger.reserve? (.text "DAI") = some r ∧ r.strategy = .kinked .stableTwo ∧
      0 < r.principalStableDebt ∧ 0 < r.scaledVariableDebt ∧ 0 < r.currentLiquidityRate ∧
      r.lastUpdateTimestamp = 31536000 ∧ r.accrue 31536000 = .ok r := by
  intro p
  have hreachable : Reachable p := ⟨⟨{}, 0, repaidAfterAYear, rfl⟩, by decide +kernel⟩
  have hlent : ∃ r, p.ledger.reserve? (.text "DAI") = some r := by
    rw [← Option.isSome_iff_exists]
    decide +kernel
  obtain ⟨r, hr⟩ := hlent
  have hstate : (p.ledger.reserve? (.text "DAI")).all fun r =>
      r.strategy = .kinked .stableTwo ∧ 0 < r.principalStableDebt ∧ 0 < r.scaledVariableDebt ∧
        0 < r.currentLiquidityRate ∧ r.lastUpdateTimestamp = 31536000 := by decide +kernel
  rw [hr, Option.all_some, decide_eq_true_iff] at hstate
  obtain ⟨hstrategy, hstable, hfloating, hrate, htime⟩ := hstate
  have hstands := ((rates_never_stale hreachable).1 _ r _ hr hstrategy).2
  rw [htime] at hstands
  exact ⟨r, hr, hstrategy, hstable, hfloating, hrate, htime, hstands⟩

end MoneyMarket.Pool
