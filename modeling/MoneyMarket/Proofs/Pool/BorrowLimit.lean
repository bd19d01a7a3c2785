import MoneyMarket.Proofs.Figures
import MoneyMarket.Proofs.Pool.Refusals
import MoneyMarket.Proofs.Pool.Safety

/-!
# The limit of borrowing

The report on an account multiplies the collateral by the average loan-to-value, and tells how much
more can be borrowed. The check of a loan divides the debt by it instead, and compares with the
collateral. Both round a half up, so they agree on every debt but one: of the share of the collateral
itself, which the report may have rounded up by more than the check lets pass.
-/

namespace MoneyMarket

open MoneyMarket.FixedPoint

/-- The debt is below the share of the collateral, or is all of it and this was not rounded up by as
much as half a divisor. -/
def WithinLimit (collateral ltv debt : Int) : Prop :=
  debt < mulRound whole halfWhole collateral ltv ∨
    debt = mulRound whole halfWhole collateral ltv ∧
      2 * (debt * whole) < (2 * collateral + 1) * ltv

instance (collateral ltv debt : Int) : Decidable (WithinLimit collateral ltv debt) :=
  inferInstanceAs (Decidable (_ ∨ _))

theorem needed_le_iff {collateral ltv debt : Int} (hsome : 0 < ltv) (hle : ltv ≤ whole) :
    divRound whole debt ltv ≤ collateral ↔ WithinLimit collateral ltv debt := by
  rw [divRound_le_iff whole hsome]
  unfold WithinLimit mulRound
  have hsplit : (2 * collateral + 1) * ltv = 2 * (collateral * ltv) + ltv := by ring
  rw [hsplit]
  unfold whole halfWhole at *
  omega

def Fault.LacksCollateral : Fault → Prop
  | .refused (.zeroLtv _) | .refused (.collateralTooLow _ _ _) => True
  | _ => False

instance : DecidablePred Fault.LacksCollateral := fun f => by
  unfold Fault.LacksCollateral
  split <;> infer_instance

theorem Fault.NoFigure.not_lacksCollateral {f : Fault} (h : f.NoFigure) : ¬ f.LacksCollateral := by
  cases h <;> exact id

namespace Pool

open MoneyMarket.Ledger MoneyMarket.LedgerWork

variable {p : Pool} {asset user : Name} {amount collateral debt ltv value : Int}
  {report : SolvencyReport}

/-! ## The check -/

structure Measures (report : SolvencyReport) (collateral debt ltv : Int) : Prop where
  totalCollateralValue : report.totalCollateralValue = .whole collateral
  totalDebtValue : report.totalDebtValue = .whole debt
  avgLtv : report.avgLtv = .whole ltv
  debt_nonneg : 0 ≤ debt
  ltv_pos : 0 < ltv
  ltv_le : ltv ≤ whole

theorem requireCollateralFor_whole (h : Measures report collateral debt ltv) (hvalue : 0 ≤ value) :
    requireCollateralFor report user (.whole value) =
      if WithinLimit collateral ltv (debt + value) then .ok ()
      else .error (.refused (.collateralTooLow user
        (.whole (divRound whole (debt + value) ltv)) (.whole collateral))) := by
  have hneeded : percentDiv (debt + value) ltv = .ok (divRound whole (debt + value) ltv) :=
    divChecked_ok _ _ (Int.add_nonneg h.debt_nonneg hvalue) h.ltv_pos
  have hltv : ¬ ltv = 0 := Int.ne_of_gt h.ltv_pos
  unfold requireCollateralFor
  rw [h.totalCollateralValue, h.totalDebtValue, h.avgLtv, Quantity.add_whole]
  simp only [Quantity.isZero_whole, hltv, decide_false, Bool.false_eq_true, if_false, ok_bind,
    Quantity.percentDiv_whole, hneeded, Except.map, Quantity.lt_whole, decide_eq_true_eq,
    ← needed_le_iff h.ltv_pos h.ltv_le]
  by_cases hle : divRound whole (debt + value) ltv ≤ collateral
  · rw [if_pos hle, if_neg (Int.not_lt.2 hle)]
    rfl
  · rw [if_neg hle, if_pos (Int.not_le.1 hle)]
    rfl

/-! ## The loan -/

def loanValue (p : Pool) (asset : Name) (amount : Int) : Except Fault Quantity := do
  let r ← p.ledger.reserve asset
  valueOf (← p.prices.requirePrice asset) amount r.config.decimals

section Loan

variable {faults : Fault → Prop} (hother : ∀ f, ¬ f.LacksCollateral → faults f)
include hother

theorem answers_computed {α : Type} {x : Except Fault α} (h : Computes x) :
    Answers faults (fun _ => True) x := h.answers fun f hf => hother f hf.not_lacksCollateral

theorem admitBorrow_limited (hreport : p.solvency user = .ok report)
    (h : Measures report collateral debt ltv)
    (hworth : p.loanValue asset amount = .ok (.whole value)) (hvalue : 0 ≤ value)
    (hlacking : ∀ f, ¬ WithinLimit collateral ltv (debt + value) → faults f) :
    Answers faults (fun _ => WithinLimit collateral ltv (debt + value))
      (p.admitBorrow p.ledger asset amount user) := by
  simp only [loanValue, bind_ok_iff] at hworth
  obtain ⟨r, hr, price, hprice, hworth⟩ := hworth
  have hreport : p.ledger.solvency p.surroundings user p.clock = .ok report := hreport
  unfold admitBorrow
  rw [hr, ok_bind]
  apply (Answers.require (c := p.paused = true) (hother _ id)).andThen
  intro _ _
  have hactive : Answers faults (fun _ => True) r.requireActive := by
    unfold Reserve.requireActive
    split
    · trivial
    · exact hother _ id
  apply hactive.andThen
  intro _ _
  apply (Answers.require (c := r.paused = true) (hother _ id)).andThen
  intro _ _
  apply (Answers.require (c := r.frozen = true) (hother _ id)).andThen
  intro _ _
  apply Answers.guard (hother _ id)
  intro _
  apply (Answers.require (c := amount ≤ 0) (hother _ id)).andThen
  intro _ _
  apply (Answers.require (c := r.availableLiquidity < amount) (hother _ id)).andThen
  intro _ _
  rw [hreport, ok_bind]
  apply Answers.guard (hother _ id)
  intro _
  apply Answers.guard (hother _ id)
  intro _
  rw [hprice, ok_bind, hworth, ok_bind, requireCollateralFor_whole h hvalue]
  split
  · assumption
  · exact hlacking _ ‹_›

theorem requireStableLoan_spares (r : Reserve) (pos : Position) :
    Answers faults (fun _ => True) (p.requireStableLoan r pos asset amount user) := by
  have hcovers : Computes (coversItself r pos amount p.clock) := by simp [coversItself]
  unfold requireStableLoan
  apply Answers.guard (hother _ id)
  intro _
  apply (answers_computed hother hcovers).andThen
  intro _ _
  apply Answers.guard (hother _ id)
  intro _
  apply (answers_computed hother (computes_percentMul _ _)).andThen
  intro limit _
  split
  · exact hother _ id
  · trivial

theorem requireHealthy_spares (l : Ledger) (action : String) :
    Answers faults (fun _ => True) (p.requireHealthy l user action) := by
  apply (answers_computed hother (l.computes_solvency p.surroundings user p.clock)).andThen
  intro report _
  split
  · exact hother _ id
  · trivial

theorem book_spares (l : Ledger) (b : Booking) :
    Ends faults (fun _ _ => True) (book asset b) l := by
  have hbook := answers_computed hother (l.computes_book asset b)
  unfold Ends LedgerWork.book
  generalize l.book asset b = progress at hbook ⊢
  obtain ⟨m, _ | f⟩ := progress <;> exact hbook

theorem reserve_spares (l : Ledger) : Answers faults (fun _ => True) (l.reserve asset) := by
  unfold Ledger.reserve
  split
  · trivial
  · exact hother _ id

theorem bookLoan_spares (l : Ledger) (mode : RateMode) (now : Int) :
    Ends faults (fun _ _ => True) (bookLoan asset amount mode user now) l := by
  unfold bookLoan
  apply (book_spares hother l _).andThen
  intro _ m _
  apply Ends.check (reserve_spares hother m)
  intro r _
  apply (book_spares hother m _).andThen
  intro _ n _
  apply (book_spares hother n _).andThen
  intro _ k _
  apply (book_spares hother k _).andThen
  intro _ _ _
  trivial

theorem borrowing_limited (hreport : p.solvency user = .ok report)
    (h : Measures report collateral debt ltv)
    (hworth : p.loanValue asset amount = .ok (.whole value)) (hvalue : 0 ≤ value)
    (hlacking : ∀ f, ¬ WithinLimit collateral ltv (debt + value) → faults f) (mode : RateMode) :
    Ends faults (fun _ _ => WithinLimit collateral ltv (debt + value))
      (p.borrowing asset amount mode user) p.ledger := by
  unfold borrowing
  apply Ends.check (admitBorrow_limited hother hreport h hworth hvalue hlacking)
  intro _ hwithin
  apply Ends.opening
  have hrest (l : Ledger) : Ends faults (fun _ _ => WithinLimit collateral ltv (debt + value)) (do
      let rate ← bookLoan asset amount mode user p.clock
      p.requireHealthy (← get) user "borrow"
      return ({ value := (), contents := [.borrow asset user amount mode rate] } : Receipt Unit))
      l := by
    apply (bookLoan_spares hother l mode p.clock).andThen
    intro rate m _
    exact Ends.check (requireHealthy_spares hother m "borrow") fun _ _ => hwithin
  dsimp only
  split
  · apply Ends.check (reserve_spares hother _)
    intro r _
    apply Ends.position
    apply Ends.lift (requireStableLoan_spares hother r _)
    intro _ _
    exact hrest _
  · exact hrest _

theorem borrow_ends (hreport : p.solvency user = .ok report)
    (h : Measures report collateral debt ltv)
    (hworth : p.loanValue asset amount = .ok (.whole value)) (hvalue : 0 ≤ value)
    (hlacking : ∀ f, ¬ WithinLimit collateral ltv (debt + value) → faults f) {number : Int}
    {work : LedgerWork (Receipt Outcome)}
    (htx : p.transaction? (.borrow asset amount number user) = some work) :
    Ends faults (fun _ _ => WithinLimit collateral ltv (debt + value)) work p.ledger := by
  simp only [transaction?, Option.some.injEq] at htx
  subst htx
  have hmode : Answers faults (fun _ => True) (p.requireMode asset number) := by
    apply (reserve_spares hother p.ledger).andThen
    intro _ _
    split
    · trivial
    · exact hother _ id
  apply Ends.lift hmode
  intro mode _
  exact (borrowing_limited hother hreport h hworth hvalue hlacking mode).map
    (I := fun _ => WithinLimit collateral ltv (debt + value))

end Loan

/-- **The borrow limit.** Where a report is on whole values, its figure of what can still be borrowed
is the share of the collateral less the debt, and the check of a loan passes exactly the debts within
the limit. A loan that is done has kept it. One that is refused for want of collateral would have
broken it, and is worth no less than what could still be borrowed. -/
theorem borrow_limit (p : Pool) (user : Name) (hreport : p.solvency user = .ok report)
    (hcollateral : report.totalCollateralValue = .whole collateral)
    (hdebt : report.totalDebtValue = .whole debt) (hltv : report.avgLtv = .whole ltv)
    (hsome : 0 < ltv) (hle : ltv ≤ whole) :
    report.availableBorrowsValue = .whole (spare collateral ltv debt) ∧
    ∀ value, 0 ≤ value →
      (requireCollateralFor report user (.whole value) = .ok () ↔
        WithinLimit collateral ltv (debt + value)) ∧
      ∀ asset amount number, p.loanValue asset amount = .ok (.whole value) →
        let answer := (p.perform (.borrow asset amount number user)).2
        ((∃ outcome, answer = .ok outcome) → WithinLimit collateral ltv (debt + value)) ∧
        ((∃ f, answer = .error f ∧ f.LacksCollateral) →
          ¬ WithinLimit collateral ltv (debt + value) ∧ spare collateral ltv debt ≤ value) := by
  obtain ⟨cs, owed, snapshot, hof⟩ := solvencyUsing_of hreport
  obtain ⟨hnonneg, havailable⟩ := SolvencyReport.available_of hof hcollateral hdebt hltv
  have hmeasures : Measures report collateral debt ltv :=
    ⟨hcollateral, hdebt, hltv, hnonneg, hsome, hle⟩
  refine ⟨havailable, fun value hvalue => ⟨?_, ?_⟩⟩
  · rw [requireCollateralFor_whole hmeasures hvalue]
    split <;> simpa
  · intro asset amount number hworth answer
    obtain ⟨work, htx⟩ : ∃ work, p.transaction? (.borrow asset amount number user) = some work :=
      ⟨_, rfl⟩
    have hanswer : answer = (p.transact work).2 := by
      show (p.perform _).2 = _
      rw [perform_transaction htx]
    -- both directions are read off one statement about the work on the ledger
    have hends : Ends (fun f => f.LacksCollateral → ¬ WithinLimit collateral ltv (debt + value))
        (fun _ _ => WithinLimit collateral ltv (debt + value)) work p.ledger := by
      refine borrow_ends ?_ hreport hmeasures hworth hvalue ?_ htx
      · exact fun _ hspared hlacks => absurd hlacks hspared
      · exact fun _ hbeyond _ => hbeyond
    constructor
    · rintro ⟨outcome, hdone⟩
      rw [hanswer] at hdone
      obtain ⟨receipt, l, hwork, _, _⟩ := transact_done hdone
      rwa [Ends, hwork] at hends
    · rintro ⟨f, hfailed, hlacks⟩
      rw [hanswer] at hfailed
      have hbeyond := transact_stops hends hfailed hlacks
      refine ⟨hbeyond, ?_⟩
      unfold WithinLimit at hbeyond
      unfold spare
      omega

/-- All of the fifty that can still be borrowed is lent. One more is refused. -/
theorem limit_of_fifty :
    let p := run {} lentAgainstSupply
    let loan (amount : Int) := (p.perform (.borrow (.text "WETH") amount 2 (.text "ana"))).2
    (loan 50).toOption.isSome ∧ (∃ f, loan 51 = .error f ∧ f.LacksCollateral) ∧
      ∃ report, p.solvency (.text "ana") = .ok report ∧ report.availableBorrowsValue = .whole 50 ∧
        WithinLimit 1000 7500 (700 + 50) ∧ ¬ WithinLimit 1000 7500 (700 + 51) := by
  intro p loan
  have hdone : (loan 50).toOption.isSome := by decide +kernel
  have hrefused : ∃ f, loan 51 = .error f ∧ f.LacksCollateral := by decide +kernel
  obtain ⟨report, hreport, hcollateral, hdebt, hltv⟩ :
      ∃ report, p.solvency (.text "ana") = .ok report ∧
        report.totalCollateralValue = .whole 1000 ∧ report.totalDebtValue = .whole 700 ∧
        report.avgLtv = .whole 7500 := by decide +kernel
  obtain ⟨havailable, hloans⟩ :=
    borrow_limit p (.text "ana") hreport hcollateral hdebt hltv (by decide) (by decide)
  obtain ⟨outcome, houtcome⟩ := Option.isSome_iff_exists.1 hdone
  have hfifty := (hloans 50 (by decide)).2 (.text "WETH") 50 2
    (toOption_eq_some_iff.1 (by decide +kernel))
  have hmore := (hloans 51 (by decide)).2 (.text "WETH") 51 2
    (toOption_eq_some_iff.1 (by decide +kernel))
  exact ⟨hdone, hrefused, report, hreport, havailable,
    hfifty.1 ⟨outcome, toOption_eq_some_iff.1 houtcome⟩, (hmore.2 hrefused).1⟩

/-- A share of eight in ten of this collateral is not whole, and is rounded up. -/
def pledgedUnevenly : List Operation :=
  [.initReserve .weth (.kinked .weth),
    .initReserve .dai (.kinked .stableTwo),
    .setPrice (.text "WETH") (.whole wad),
    .setPrice (.text "DAI") (.whole wad),
    .deposit (.text "DAI") 10000000000000000000 (.text "carol"),
    .deposit (.text "WETH") 1000000000000000002 (.text "ana")]

def pledgedForFractions : List Operation :=
  [.initReserve .weth (.kinked .weth),
    .initReserve { ReserveConfig.dai with decimals := -3 } (.kinked .stableTwo),
    .setPrice (.text "WETH") (.whole wad),
    .setPrice (.text "DAI") (.whole 1),
    .deposit (.text "DAI") 1000000000000000 (.text "carol"),
    .deposit (.text "WETH") 125000000000002511 (.text "ana")]

/-- What the report says can be borrowed is refused for want of collateral. Of a token whose values
are not whole numbers, so can be what is worth less. -/
theorem reported_limit_refused :
    let p := run {} pledgedUnevenly
    let q := run {} pledgedForFractions
    let loan (amount : Int) := Operation.borrow (.text "DAI") amount 2 (.text "ana")
    (Reachable p ∧ Attainable q) ∧
      ((∃ report, p.solvency (.text "ana") = .ok report ∧
          report.availableBorrowsValue = .whole 800000000000000002) ∧
        (p.loanValue (.text "DAI") 800000000000000002).toOption =
          some (.whole 800000000000000002) ∧
        ∃ f, (p.perform (loan 800000000000000002)).2 = .error f ∧ f.LacksCollateral) ∧
      (∃ report, q.solvency (.text "ana") = .ok report ∧
          report.availableBorrowsValue = .whole 100000000000002009) ∧
        ((q.loanValue (.text "DAI") 100000000000002).toOption.any fun value =>
          value.lt (.whole 100000000000002009)) ∧
        ∃ f, (q.perform (loan 100000000000002)).2 = .error f ∧ f.LacksCollateral := by
  refine ⟨⟨⟨⟨{}, 0, pledgedUnevenly, rfl⟩, ?_⟩, ⟨{}, 0, pledgedForFractions, rfl⟩⟩,
    ⟨?_, ?_, ?_⟩, ?_, ?_, ?_⟩
  all_goals decide +kernel

end Pool

end MoneyMarket
