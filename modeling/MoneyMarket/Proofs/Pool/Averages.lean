import MoneyMarket.Proofs.Ledger.Averages
import MoneyMarket.Proofs.Pool.Timely

/-!
# Averages in a pool

A reserve is listed only with a threshold of at least its loan-to-value, and keeps both. So whatever
has been done to a pool, the averages in its reports on accounts are in order.
-/

namespace MoneyMarket.Pool

open MoneyMarket.FixedPoint MoneyMarket.Ledger MoneyMarket.Reserve

variable {p q : Pool} {l : Ledger}

/-! ## Listed reserves -/

theorem graded_setReserve (hl : l.Graded) {a : Key} {r : Reserve}
    (hr : r.config.baseLtv ≤ r.config.liquidationThreshold) : (l.setReserve a r).Graded := by
  intro b s hs
  rw [reserve?_setReserve] at hs
  split at hs
  · cases hs
    exact hr
  · exact hl b s hs

theorem initReserve_graded {config : ReserveConfig} {strategy : RateStrategy}
    (h : p.initReserve config strategy = .ok q) : config.baseLtv ≤ config.liquidationThreshold := by
  simp only [initReserve, guard_ok_iff] at h
  exact Int.not_lt.1 h.2.1

example : (initReserve {} { ReserveConfig.dai with liquidationThreshold := 7499 }
    (.kinked .stableTwo)).toOption.isNone := by
  decide +kernel

theorem Administered.graded (h : Administered p q) (hp : p.ledger.Graded) : q.ledger.Graded := by
  cases h with
  | same hledger => rwa [hledger]
  | edited hr h =>
    have hr := hp _ _ hr
    apply graded_setReserve hp
    rwa [h]
  | listed h =>
    have hgraded := initReserve_graded h
    obtain ⟨_, r, hr, rfl⟩ := initReserve_ok h
    apply graded_setReserve hp
    rwa [(accrue_accrued hr).config]

theorem creditTreasury_graded (hl : l.Graded) (treasury : Key) :
    (creditTreasury treasury l).Graded := by
  intro a s hs
  rw [reserve?_creditTreasury] at hs
  obtain ⟨r, hr, rfl⟩ := Option.map_eq_some_iff.1 hs
  exact hl a r hr

theorem after_graded (hp : p.ledger.Graded) (op : Operation) : (p.after op).ledger.Graded := by
  cases htx : p.transaction? op with
  | none => exact (after_administered htx).graded hp
  | some work =>
    rcases after_transaction htx with h | ⟨_, l, _, hturns, h⟩ <;> rw [h]
    · exact hp
    · apply creditTreasury_graded
      exact fun _ _ => hturns.config_of
        (I := fun config => config.baseLtv ≤ config.liquidationThreshold) hp

theorem Attainable.graded (h : Attainable p) : p.ledger.Graded := by
  apply h.induct
  · intro _ _ a r hr
    rw [reserve?_empty] at hr
    cases hr
  · intro q op hq
    exact after_graded hq op

/-! ## Reports -/

/-- **Coherent averages.** In a pool whose margin collateral is liquidated at no less than what is
lent on it, every report on collateral of whole value has the averages of its contributions, cut down
to basis points, and that of loan-to-value is no more than that of the threshold. An account that
owes a whole value, and could borrow more, is healthy. -/
theorem averages_coherent (h : Attainable p)
    (hmargin : p.params.margin.ltv ≤ p.params.margin.liquidationThreshold) {user : Key} {now : Int}
    {usingMargin : Bool} {report : SolvencyReport}
    (hreport : p.ledger.solvencyUsing p.surroundings user now usingMargin = .ok report) {total : Int}
    (htotal : report.totalCollateralValue = .whole total) :
    (0 < total → ∃ ltv threshold, report.Coherent total ltv threshold) ∧
      ∀ debt, report.totalDebtValue = .whole debt →
        report.availableBorrowsValue.isPositive = true →
          report.Healthy ∧ report.isLiquidatable = false := by
  obtain ⟨cs, owed, _, ⟨hcs, howed⟩, hof⟩ := h.graded.solvencyUsing hmargin hreport
  refine ⟨SolvencyReport.coherent_of_graded hcs hof htotal, ?_⟩
  intro debt hdebt havailable
  have hhealthy := SolvencyReport.healthy_of_available hcs hof howed htotal hdebt havailable
  exact ⟨hhealthy, hhealthy.not_liquidatable⟩

def pledgedThreeWays : List Operation :=
  [.initReserve .dai (.kinked .stableTwo),
    .initReserve .weth (.kinked .weth),
    .initReserve .usdc (.kinked .stableTwo),
    .setPrice (.text "DAI") (.whole wad),
    .setPrice (.text "WETH") (.whole wad),
    .setPrice (.text "USDC") (.whole 1),
    .deposit (.text "WETH") 10000 (.text "carol"),
    .deposit (.text "DAI") 1000 (.text "ana"),
    .deposit (.text "USDC") 5 (.text "ana"),
    .pushMargin (.text "ana") { collateral := .whole 333 } 1,
    .setUsingMargin (.text "ana") true,
    .borrow (.text "WETH") 700 2 (.text "ana")]

theorem averages_of_three :
    let p := run {} pledgedThreeWays
    ∃ report, p.solvency (.text "ana") = .ok report ∧
      report.collateral.map (·.value) = [.whole 1000, .whole 0, .whole 333] ∧
      report.availableBorrowsValue = .whole 316 ∧
      report.Coherent 1333 7624 8499 ∧ report.Healthy := by
  intro p
  obtain ⟨report, hreport, hvalues, htotal, hdebt, hltv, hthreshold, havailable⟩ :
      ∃ report, p.solvency (.text "ana") = .ok report ∧
        report.collateral.map (·.value) = [.whole 1000, .whole 0, .whole 333] ∧
        report.totalCollateralValue = .whole 1333 ∧ report.totalDebtValue = .whole 700 ∧
        report.avgLtv = .whole 7624 ∧ report.avgLiquidationThreshold = .whole 8499 ∧
        report.availableBorrowsValue = .whole 316 := by decide +kernel
  obtain ⟨hcoherent, hhealthy⟩ :=
    averages_coherent ⟨{}, 0, pledgedThreeWays, rfl⟩ (by decide) hreport htotal
  obtain ⟨ltv, threshold, hcoherent⟩ := hcoherent (by decide)
  have hltv' := hcoherent.avgLtv
  have hthreshold' := hcoherent.avgLiquidationThreshold
  rw [hltv, Quantity.whole.injEq] at hltv'
  rw [hthreshold, Quantity.whole.injEq] at hthreshold'
  subst hltv' hthreshold'
  exact ⟨report, hreport, hvalues, havailable, hcoherent,
    (hhealthy 700 hdebt (by rw [havailable]; rfl)).1⟩

def pledgedInFractions : List Operation :=
  [.initReserve { ReserveConfig.dai with decimals := -3 } (.kinked .stableTwo),
    .setPrice (.text "DAI") (.whole 1),
    .deposit (.text "DAI") 10000000000 (.text "ana")]

/-- The average of a single loan-to-value can be lower than it if the value is not a whole number. -/
theorem average_below_all :
    let p := run {} pledgedInFractions
    Attainable p ∧ p.params.margin.ltv ≤ p.params.margin.liquidationThreshold ∧
      ∃ report, p.solvency (.text "ana") = .ok report ∧
        report.totalCollateralValue.isPositive ∧ report.collateral.map (·.ltv) = [7500] ∧
        report.avgLtv.lt (.whole 7500) := by
  refine ⟨⟨{}, 0, pledgedInFractions, rfl⟩, by decide, ?_⟩
  decide +kernel

end MoneyMarket.Pool
