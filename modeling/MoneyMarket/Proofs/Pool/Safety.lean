import MoneyMarket.Proofs.Ledger.Standing
import MoneyMarket.Proofs.Pool.Bystander
import MoneyMarket.Proofs.Pool.Completed
import MoneyMarket.Proofs.Pool.Lending
import MoneyMarket.Proofs.Pool.Movements

/-!
# Operations that may add to a risk

What an account does at its own risk leaves it healthy, or no less so than it was. A loan, taking
from collateral and giving up collateral are checked at the end. The other operations are not: a
withdrawal of what is no collateral leaves the report as it is, a repayment leaves the collateral,
and the choice of margin collateral is checked before it is made.
-/

namespace MoneyMarket

open MoneyMarket.FixedPoint MoneyMarket.Reserve

namespace Pool

open MoneyMarket.Ledger MoneyMarket.LedgerWork

variable {p : Pool} {user asset : Name} {l m : Ledger} {op : Operation}

/-- Who bears the risk that an operation may add. -/
def Operation.riskTaker? : Operation → Option Name
  | .withdraw _ _ user _ | .borrow _ _ _ user | .repay _ _ _ user => some user
  | .setUsageAsCollateral user _ false | .setUsingMargin user _ => some user
  | _ => none

/-- The operations after which the account has to be healthy. -/
def EndsHealthy (p : Pool) : Operation → Prop
  | .withdraw asset _ user _ => (p.ledger.position user asset).usedAsCollateral = true
  | .borrow _ _ _ _ | .setUsageAsCollateral _ _ false => True
  | _ => False

theorem riskTaker_named (h : op.riskTaker? = some user) : op.accounts ≠ [] := by
  cases op <;> simp_all [Operation.riskTaker?, Operation.accounts]

/-! ## Reports at the end of the work -/

theorem solvency_after_done {work : LedgerWork (Receipt Outcome)} {receipt : Receipt Outcome}
    (htx : p.transaction? op = some work) (hw : work p.ledger = .ok receipt m) {v : Key}
    (ht : v ≠ .text p.params.treasury) :
    (p.after op).solvency v = m.solvency p.surroundings v p.clock := by
  have hafter : p.after op = p.commit m receipt := by
    unfold after
    rw [perform_transaction htx]
    unfold transact atomically
    rw [hw]
  rw [hafter]
  exact (creditTreasury_sameFor ht m).solvency

theorem requireHealthy_ok {action : String} {u : Unit}
    (h : p.requireHealthy l user action = .ok u) : ∃ report,
      l.solvency p.surroundings user p.clock = .ok report ∧ report.isLiquidatable = false := by
  simpa only [requireHealthy, bind_ok_iff, check_ok_iff, Bool.not_eq_true] using h

theorem healthy_of_required (hwhole : l.WholeTokens) {action : String} {u : Unit}
    (h : p.requireHealthy l user action = .ok u) : ∃ report,
      l.solvency p.surroundings user p.clock = .ok report ∧ report.Healthy := by
  obtain ⟨report, hreport, hsafe⟩ := requireHealthy_ok h
  obtain ⟨cs, debt, _, hfigures⟩ := solvency_whole hwhole hreport
  exact ⟨report, hreport, hfigures.healthy hsafe⟩

/-! ## Collateral -/

theorem switchingMargin_done {enabled : Bool} {receipt : Receipt Unit}
    (h : p.switchingMargin user enabled l = .ok receipt m) : ∃ report,
      m.solvency p.surroundings user p.clock = .ok report ∧
      (report.totalDebtValue.isPositive && report.isLiquidatable) = false := by
  obtain ⟨hadmitted, rfl, _⟩ := switchingMargin_completed h
  simp only [admitMarginSwitch, bind_ok_iff, check_ok_iff, Bool.not_eq_true] at hadmitted
  obtain ⟨_, _, report, hreport, hsafe⟩ := hadmitted
  refine ⟨report, ?_, hsafe⟩
  unfold Ledger.solvency
  rw [usesMargin_setUsesMargin, if_pos rfl]
  exact hreport

theorem healthy_of_margin (hwhole : l.WholeTokens) {report : SolvencyReport}
    (hreport : l.solvency p.surroundings user p.clock = .ok report)
    (hsafe : (report.totalDebtValue.isPositive && report.isLiquidatable) = false) :
    report.Healthy := by
  obtain ⟨cs, debt, hstands, hfigures⟩ := solvency_whole hwhole hreport
  rw [Bool.and_eq_false_iff] at hsafe
  rcases hsafe with hnone | hsafe
  · have hdebt := (hstands.plain hwhole).2
    rw [hfigures.totalDebt, Quantity.isPositive_whole, decide_eq_false_iff_not] at hnone
    have hzero : debt = 0 := by omega
    refine ⟨_, hfigures.healthFactor, ?_⟩
    rw [hzero]
    exact wad_le_factor_zero
  · exact hfigures.healthy hsafe

/-! ## Withdrawals -/

theorem admitWithdrawal_held {amount taken : Int}
    (h : p.admitWithdrawal l asset amount user = .ok taken) : (l.position? user asset).isSome := by
  obtain ⟨r, balance, _, hbalance, hpositive, henough, _⟩ := admitWithdrawal_ok h
  unfold supplyOf at hbalance
  cases hpos : l.position? user asset with
  | some pos => rfl
  | none =>
    -- nothing is held, so that anything taken would be too much
    rw [hpos, Except.ok.injEq] at hbalance
    omega

/-- A withdrawal from collateral leaves the account healthy. Any other only takes from a supply that
is not switched on. -/
theorem withdrawing_cases {amount : Int} {recipient : Option Name} {receipt : Receipt Int}
    (hl : Timely p.clock l) (h : p.withdrawing asset amount user recipient l = .ok receipt m) :
    ((l.position user asset).usedAsCollateral = true ∧
      ∃ u, p.requireHealthy m user "withdraw" = .ok u) ∨
    ((l.position user asset).usedAsCollateral = false ∧ (l.position? user asset).isSome ∧
      ∃ r s x, Visit p.clock user asset l r m s { l.position user asset with
        scaledBalance := (l.position user asset).scaledBalance - x }) := by
  obtain ⟨taken, l₁, emptied, hadmitted, hbook, hemptied, hm, hhealthy, _⟩ := withdrawing_completed h
  cases hflag : (l.position user asset).usedAsCollateral with
  | true => exact .inl ⟨rfl, (), hhealthy hflag⟩
  | false =>
    right
    rw [hemptied, hflag, Bool.false_and, if_neg Bool.false_ne_true] at hm
    obtain ⟨r, s, x, hvisit, _⟩ := bookWithdrawal_visit hl hbook
    exact ⟨rfl, admitWithdrawal_held hadmitted, r, s, x, hm ▸ hvisit⟩

/-! ## Repayments -/

theorem admitRepayment_held {amount paid : Int} {mode : RateMode}
    (h : p.admitRepayment l asset amount mode user = .ok paid) :
    (l.position? user asset).isSome ∧ 0 ≤ paid := by
  obtain ⟨r, debt, _, hheld, hdebt, hamount, hpaid, _⟩ := admitRepayment_ok h
  have hnonneg := debtOfMode_nonneg hdebt
  exact ⟨hheld, by omega⟩

theorem bookRepayment_lighter {now paid : Int} {mode : RateMode} {u : Unit} (hl : Timely now l)
    (hpaid : 0 ≤ paid) (h : bookRepayment asset paid mode user now l = .ok u m) :
    ∃ r s pos, Visit now user asset l r m s pos ∧ Lighter now r (l.position user asset) pos := by
  cases mode with
  | floating =>
    obtain ⟨r, s, x, hvisit, hx⟩ := bookRepayment_visit hl h
    have hbounds := scaledShare_bounds hx
    exact ⟨r, s, _, hvisit, lighter_of_floating hbounds.1 hbounds.2⟩
  | stable =>
    obtain ⟨r, _, s, rp, hvisit, hburned, _⟩ :=
      visit_of_booked hl (bookRepayment_booked h) (fun _ => rfl) fun _ _ _ => burnStableDebt_moved trivial
    obtain ⟨current, x, y, hcurrent, rfl, hleft, hdebt, _⟩ := burnStableDebt_left hburned
    exact ⟨r, s, _, hvisit, lighter_of_stable hpaid hcurrent hleft hdebt⟩

theorem repaying_visit {amount : Int} {mode : RateMode} {receipt : Receipt Int}
    (hl : Timely p.clock l) (h : p.repaying asset amount mode user l = .ok receipt m) :
    (l.position? user asset).isSome ∧ ∃ r s pos, Visit p.clock user asset l r m s pos ∧
      Lighter p.clock r (l.position user asset) pos := by
  obtain ⟨paid, hadmitted, hbook, _⟩ := repaying_completed h
  obtain ⟨hheld, hpaid⟩ := admitRepayment_held hadmitted
  exact ⟨hheld, bookRepayment_lighter hl hpaid hbook⟩

/-! ## All of them -/

theorem visit_report {l : Ledger} {r s : Reserve} {pos : Position} (hl : Timely p.clock l)
    (hvisit : Visit p.clock user asset l r m s pos) (hheld : (l.position? user asset).isSome)
    (howes : pos.scaledVariableDebt ≠ 0 → (l.position user asset).scaledVariableDebt ≠ 0) :
    m.solvency p.surroundings user p.clock =
      (l.setPosition user asset pos).solvency p.surroundings user p.clock := by
  apply SameFor.solvency
  apply hvisit.sameFor (.inl hheld)
  intro hne
  exact hl.counted_position hvisit.before (howes hne)

theorem noWorse_of_supply {l : Ledger} {r s : Reserve} {x : Int} {before : SolvencyReport}
    (hl : Timely p.clock l) (hwhole : l.WholeTokens) (hheld : (l.position? user asset).isSome)
    (hflag : (l.position user asset).usedAsCollateral = false)
    (hvisit : Visit p.clock user asset l r m s { l.position user asset with
      scaledBalance := (l.position user asset).scaledBalance - x })
    (hbefore : l.solvency p.surroundings user p.clock = .ok before) :
    ∃ after, m.solvency p.surroundings user p.clock = .ok after ∧ before.NoWorse after := by
  rw [visit_report hl hvisit hheld id]
  apply solvency_noWorse hwhole hvisit.before _ _ hbefore
  · intro cs hcs
    rw [pledged_of_disabled hflag] at hcs
    refine (pledged_of_disabled ?_).2 hcs
    exact hflag
  · intro debt hdebt
    exact ⟨debt, (owing_congr rfl rfl rfl).2 hdebt, Int.le_refl _⟩

theorem noWorse_of_debt {l : Ledger} {r s : Reserve} {pos : Position} {before : SolvencyReport}
    (hl : Timely p.clock l) (hwhole : l.WholeTokens) (hheld : (l.position? user asset).isSome)
    (hvisit : Visit p.clock user asset l r m s pos)
    (hlighter : Lighter p.clock r (l.position user asset) pos)
    (hbefore : l.solvency p.surroundings user p.clock = .ok before) :
    ∃ after, m.solvency p.surroundings user p.clock = .ok after ∧ before.NoWorse after := by
  rw [visit_report hl hvisit hheld hlighter.owes]
  apply solvency_noWorse hwhole hvisit.before _ _ hbefore
  · intro cs
    exact (pledged_congr hlighter.asset hlighter.supply hlighter.flag).2
  · intro debt
    exact hlighter.owing

/-- The work of a risky operation ends with a healthy account, or it was not checked and the account
is no worse than before. -/
theorem riskTaker_work (h : Attainable p) (hwhole : p.ledger.WholeTokens)
    (hop : op.riskTaker? = some user) {work : LedgerWork (Receipt Outcome)}
    (htx : p.transaction? op = some work) {receipt : Receipt Outcome}
    (hw : work p.ledger = .ok receipt m) :
    (∃ report, m.solvency p.surroundings user p.clock = .ok report ∧ report.Healthy) ∨
    ¬ EndsHealthy p op ∧ ∀ before, p.solvency user = .ok before →
      ∃ after, m.solvency p.surroundings user p.clock = .ok after ∧ before.NoWorse after := by
  have hwhole' : m.WholeTokens := hwhole.turns (transaction_turns htx hw)
  cases transaction_completes htx hw with
  | borrow hborrow =>
    cases hop
    obtain ⟨_, _, _, hhealthy, _⟩ := borrowing_completed hborrow
    exact .inl (healthy_of_required hwhole' hhealthy)
  | @setUsageAsCollateral _ _ enabled _ hswitch =>
    cases enabled <;> cases hop
    obtain ⟨_, _, hhealthy, _⟩ := switchingCollateral_completed hswitch
    exact .inl (healthy_of_required hwhole' (hhealthy rfl))
  | setUsingMargin hswitch =>
    cases hop
    obtain ⟨report, hreport, hsafe⟩ := switchingMargin_done hswitch
    exact .inl ⟨report, hreport, healthy_of_margin hwhole' hreport hsafe⟩
  | withdraw hwithdraw =>
    cases hop
    rcases withdrawing_cases h.timely hwithdraw with
      ⟨_, _, hhealthy⟩ | ⟨hflag, hheld, r, s, x, hvisit⟩
    · exact .inl (healthy_of_required hwhole' hhealthy)
    · right
      refine ⟨by simp [EndsHealthy, hflag], ?_⟩
      intro before hbefore
      exact noWorse_of_supply h.timely hwhole hheld hflag hvisit hbefore
  | repay hrepay =>
    cases hop
    obtain ⟨hheld, r, s, pos, hvisit, hlighter⟩ := repaying_visit h.timely hrepay
    right
    refine ⟨id, ?_⟩
    intro before hbefore
    exact noWorse_of_debt h.timely hwhole hheld hvisit hlighter hbefore
  | deposit | liquidate | liquidateMargin => cases hop

/-- **Own risk.** After a loan, a withdrawal from collateral and giving up collateral the account is
healthy. After any withdrawal or repayment and any choice of margin collateral it is healthy or no
less so than before. -/
theorem riskTaker_safe (h : Reachable p) (hop : op.riskTaker? = some user)
    (ht : user.key ≠ .text p.params.treasury) {answer : Outcome}
    (hdone : (p.perform op).2 = .ok answer) :
    (EndsHealthy p op → ∃ after, (p.after op).solvency user = .ok after ∧ after.Healthy) ∧
    ∀ before, p.solvency user = .ok before →
      ∃ after, (p.after op).solvency user = .ok after ∧ before.NoWorse after := by
  obtain ⟨work, htx⟩ := transaction?_of_accounts (riskTaker_named hop) p
  rw [perform_transaction htx] at hdone
  obtain ⟨receipt, m, hw, _, _⟩ := transact_done hdone
  rw [solvency_after_done htx hw ht]
  rcases riskTaker_work h.attainable h.whole hop htx hw with ⟨report, hreport, hhealthy⟩ | ⟨hunchecked, hsafe⟩
  · refine ⟨fun _ => ⟨report, hreport, hhealthy⟩, ?_⟩
    intro before hbefore
    obtain ⟨_, _, _, hfigures⟩ := solvency_whole h.whole hbefore
    obtain ⟨factor, hfactor, hle⟩ := hhealthy
    exact ⟨report, hreport, _, factor, hfigures.healthFactor, hfactor, .inl hle⟩
  · exact ⟨fun hends => absurd hends hunchecked, hsafe⟩

def lentAgainstSupply : List Operation :=
  [.initReserve .dai (.kinked .stableTwo),
    .initReserve .weth (.kinked .weth),
    .setPrice (.text "DAI") (.whole wad),
    .setPrice (.text "WETH") (.whole wad),
    .deposit (.text "WETH") 10000 (.text "carol"),
    .deposit (.text "DAI") 1000 (.text "ana"),
    .borrow (.text "WETH") 700 2 (.text "ana")]

/-- Taking out a tenth of the collateral lowers the health factor, but not below one. Taking out two
tenths is refused. -/
theorem riskTaker_of_withdrawal :
    let p := run {} lentAgainstSupply
    let op := Operation.withdraw (.text "DAI") 100 (.text "ana") none
    p.healthFactor? (.text "ana") = some (.whole 1142857142857142857) ∧
      (p.after op).healthFactor? (.text "ana") = some (.whole 1028571428571428571) ∧
      (p.perform (.withdraw (.text "DAI") 200 (.text "ana") none)).2.toOption.isNone ∧
      (∃ after, (p.after op).solvency (.text "ana") = .ok after ∧ after.Healthy) ∧
      ∀ before, p.solvency (.text "ana") = .ok before →
        ∃ after, (p.after op).solvency (.text "ana") = .ok after ∧ before.NoWorse after := by
  intro p op
  have hreachable : Reachable p := ⟨⟨{}, 0, lentAgainstSupply, rfl⟩, by decide +kernel⟩
  have hends : EndsHealthy p op := by
    show (p.ledger.position _ _).usedAsCollateral = true
    decide +kernel
  have hdone : (p.perform op).2.toOption.isSome := by decide +kernel
  refine ⟨by decide +kernel, by decide +kernel, by decide +kernel, ?_⟩
  cases hanswer : (p.perform op).2 with
  | error f => simp [hanswer, Except.toOption] at hdone
  | ok answer =>
    have hsafe := riskTaker_safe hreachable rfl (by decide) hanswer
    exact ⟨hsafe.1 hends, hsafe.2⟩

/-- A debt in a token that counts in fractions of its unit, against collateral that has lost nearly
all of its value. -/
def lentInFractions : List Operation :=
  [.initReserve { ReserveConfig.dai with
      symbol := .text "X", decimals := 0, baseLtv := 8000, liquidationThreshold := 8000 }
      (.kinked .stableTwo),
    .initReserve { ReserveConfig.dai with symbol := .text "Y", decimals := -3 }
      (.kinked .stableTwo),
    .setPrice (.text "X") (.whole 1000000),
    .setPrice (.text "Y") (.whole 1),
    .deposit (.text "Y") 3983343534552629250 (.text "carol"),
    .deposit (.text "X") 3798673464813989450 (.text "ana"),
    .borrow (.text "Y") 398334353455262925 2 (.text "ana"),
    .setPrice (.text "X") (.whole 1)]

/-- Repaying a debt that is not valued in whole numbers can lower the health factor of an account
that is liquidatable. -/
theorem repayment_can_worsen :
    let p := run {} lentInFractions
    let op := Operation.repay (.text "Y") 50 2 (.text "ana")
    Attainable p ∧ op.riskTaker? = some (.text "ana") ∧ (p.perform op).2.toOption.isSome ∧
      ((p.after op).healthFactor? (.text "ana")).any fun factor =>
        (p.healthFactor? (.text "ana")).any factor.lt && factor.lt (.whole wad) := by
  refine ⟨⟨{}, 0, lentInFractions, rfl⟩, rfl, ?_, ?_⟩ <;> decide +kernel

end Pool

end MoneyMarket
