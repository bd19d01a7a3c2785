import MoneyMarket.Proofs.Ledger.Assessment
import MoneyMarket.Proofs.Quantity

/-!
# Averages by value

No reserve lends more on its token than it liquidates at, so the average loan-to-value of an account
is no more than its average threshold. Who can still borrow is therefore not liquidated. As soon as a
token counts in fractions of its unit, values are binary64 numbers, and averages of these may be
lower than all that they are averages of.
-/

namespace MoneyMarket

open MoneyMarket.FixedPoint

/-! ## Weights -/

section Weights

variable {cs : List Contribution} {parameter other : Contribution → Int}

theorem weigh_const (k : Int) : weigh (fun _ => k) cs = k * worthOf cs := by
  induction cs with
  | nil => simp
  | cons c rest ih => rw [weigh_cons, worthOf_cons, ih, Int.mul_add]

theorem weigh_mono (h : ∀ c ∈ cs, c.Plain) (hle : ∀ c ∈ cs, parameter c ≤ other c) :
    weigh parameter cs ≤ weigh other cs := by
  induction cs with
  | nil => exact Int.le_refl 0
  | cons c rest ih =>
    rw [List.forall_mem_cons] at h hle
    rw [weigh_cons, weigh_cons]
    exact Int.add_le_add (Int.mul_le_mul_of_nonneg_right hle.1 h.1.2) (ih h.2 hle.2)

theorem average_mono (h : ∀ c ∈ cs, c.Plain) (hle : ∀ c ∈ cs, parameter c ≤ other c) :
    average parameter cs ≤ average other cs := by
  unfold average
  rcases Int.lt_or_eq_of_le (worthOf_nonneg h) with hpos | hzero
  · exact Int.ediv_le_ediv hpos (weigh_mono h hle)
  · rw [← hzero, Int.ediv_zero, Int.ediv_zero]

/-- `mean` is the average of a parameter over all of `total`, in whole basis points. -/
structure Averages (parameter : Contribution → Int) (cs : List Contribution) (total mean : Int) :
    Prop where
  below : total * mean ≤ weigh parameter cs
  above : weigh parameter cs < total * (mean + 1)
  least : ∃ c ∈ cs, parameter c ≤ mean
  greatest : ∃ c ∈ cs, mean ≤ parameter c

theorem average_averages (h : ∀ c ∈ cs, c.Plain) (hpos : 0 < worthOf cs) :
    Averages parameter cs (worthOf cs) (average parameter cs) := by
  have hbelow : average parameter cs * worthOf cs ≤ weigh parameter cs :=
    Int.ediv_mul_le _ (Int.ne_of_gt hpos)
  have habove : weigh parameter cs < (average parameter cs + 1) * worthOf cs :=
    Int.lt_ediv_add_one_mul_self _ hpos
  refine ⟨by rwa [Int.mul_comm], by rwa [Int.mul_comm], ?_, ?_⟩
  · -- if all were more by one, so would be the weight
    by_contra hnone
    push Not at hnone
    have hmore : weigh (fun _ => average parameter cs + 1) cs ≤ weigh parameter cs :=
      weigh_mono h hnone
    rw [weigh_const] at hmore
    omega
  · by_contra hnone
    push Not at hnone
    have hless : weigh parameter cs ≤ weigh (fun _ => average parameter cs - 1) cs :=
      weigh_mono h fun c hc => Int.le_sub_one_of_lt (hnone c hc)
    rw [weigh_const, Int.sub_mul, Int.one_mul] at hless
    omega

theorem wad_le_factor_of_spare {collateral ltv threshold debt : Int} (hcollateral : 0 ≤ collateral)
    (hdebt : 0 ≤ debt) (hle : ltv ≤ threshold) (h : 0 < spare collateral ltv debt) :
    wad ≤ factor collateral threshold debt := by
  by_cases hzero : debt = 0
  · rw [hzero]
    exact wad_le_factor_zero
  · have hpower : mulRound whole halfWhole collateral ltv ≤
        mulRound whole halfWhole collateral threshold := mulRound_mono (by decide) hcollateral hle
    have hcovered : debt < mulRound whole halfWhole collateral threshold := by
      unfold spare at h
      omega
    unfold factor
    rw [if_neg hzero, le_divRound_iff wad (by omega)]
    have hscaled := Int.mul_lt_mul_of_pos_right hcovered (show 0 < wad by decide)
    linarith

end Weights

/-! ## Contributions -/

structure Contribution.Graded (c : Contribution) : Prop where
  value : c.value.NonNegative
  grade : c.ltv ≤ c.liquidationThreshold

theorem plain_of_totalValue {cs : List Contribution} {total : Int} (hcs : ∀ c ∈ cs, c.Graded)
    (h : totalValue cs = .ok (.whole total)) : ∀ c ∈ cs, c.Plain := by
  suffices ∀ sum n, cs.foldlM (fun (sum : Quantity) c => sum.add c.value) sum = .ok (.whole n) →
      ∀ c ∈ cs, c.Plain from this (.whole 0) total h
  clear h
  intro sum n h
  suffices (∃ m, sum = .whole m) ∧ ∀ c ∈ cs, c.Plain from this.2
  induction cs generalizing sum with
  | nil =>
    rw [List.foldlM_nil, pure_ok_iff] at h
    exact ⟨⟨n, h⟩, List.forall_mem_nil _⟩
  | cons c rest ih =>
    rw [List.forall_mem_cons] at hcs
    rw [List.foldlM_cons, bind_ok_iff] at h
    obtain ⟨next, hnext, hrest⟩ := h
    obtain ⟨⟨m, rfl⟩, hplain⟩ := ih hcs.2 next hrest
    obtain ⟨i, j, hsum, hvalue, -⟩ := Quantity.combine_whole hnext
    refine ⟨⟨i, hsum⟩, List.forall_mem_cons.2 ⟨?_, hplain⟩⟩
    exact Contribution.plain_of_value hvalue (hcs.1.value j hvalue)

theorem valueOf_nonNegative {price amount decimals : Int} {q : Quantity} (hprice : 0 < price)
    (hamount : 0 ≤ amount) (h : valueOf price amount decimals = .ok q) : q.NonNegative := by
  by_cases hdecimals : 0 ≤ decimals
  · have hunits : (0 : Int) < Numeral.tenPow decimals.toNat := by
      exact_mod_cast Numeral.tenPow_pos decimals.toNat
    rw [valueOf_of_nonneg _ _ hdecimals, Except.ok.injEq] at h
    rw [← h, Quantity.nonNegative_whole]
    exact Int.ediv_nonneg (Int.mul_nonneg (Int.le_of_lt hprice) hamount) (Int.le_of_lt hunits)
  · -- a fraction of a token is a binary64 number, and so is whatever is divided by it
    simp only [valueOf, tokenUnits, if_neg hdecimals, bind_ok_iff, pure_ok_iff] at h
    obtain ⟨_, ⟨_, _, rfl⟩, h⟩ := h
    obtain ⟨x, rfl⟩ := Quantity.floorDiv_real_right h
    exact Quantity.nonNegative_real x

/-! ## Reports -/

namespace SolvencyReport

/-- The averages of a report are those of its contributions, which are worth `total`, and are in
order. -/
structure Coherent (report : SolvencyReport) (total ltv threshold : Int) : Prop where
  plain : ∀ c ∈ report.collateral, c.Plain
  worth : worthOf report.collateral = total
  avgLtv : report.avgLtv = .whole ltv
  avgLiquidationThreshold : report.avgLiquidationThreshold = .whole threshold
  ltvs : Averages (·.ltv) report.collateral total ltv
  thresholds : Averages (·.liquidationThreshold) report.collateral total threshold
  ordered : ltv ≤ threshold

variable {cs : List Contribution} {owed : Quantity} {margin : Option MarginSnapshot}
  {report : SolvencyReport} (hcs : ∀ c ∈ cs, c.Graded)
  (hreport : SolvencyReport.of cs owed margin = .ok report)
include hcs hreport

theorem plain_of_graded {total : Int} (htotal : report.totalCollateralValue = .whole total) :
    ∀ c ∈ cs, c.Plain := by
  unfold SolvencyReport.of at hreport
  simp only [bind_ok_iff, pure_ok_iff] at hreport
  obtain ⟨_, hsum, _, _, _, _, _, _, _, _, rfl⟩ := hreport
  cases htotal
  exact plain_of_totalValue hcs hsum

theorem coherent_of_graded {total : Int} (htotal : report.totalCollateralValue = .whole total)
    (hpos : 0 < total) : ∃ ltv threshold, report.Coherent total ltv threshold := by
  have hplain := plain_of_graded hcs hreport htotal
  obtain ⟨rfl, hworth, hltv, hthreshold⟩ := averages_of hplain hreport
  rw [htotal, Quantity.whole.injEq] at hworth
  subst hworth
  exact ⟨_, _, hplain, rfl, hltv, hthreshold, average_averages hplain hpos,
    average_averages hplain hpos, average_mono hplain fun c hc => (hcs c hc).grade⟩

omit hcs in
theorem totalDebtValue_of : report.totalDebtValue = owed := by
  unfold SolvencyReport.of at hreport
  simp only [bind_ok_iff, pure_ok_iff] at hreport
  obtain ⟨_, _, _, _, _, _, _, _, _, _, rfl⟩ := hreport
  rfl

theorem healthy_of_available (howed : owed.NonNegative) {total debt : Int}
    (htotal : report.totalCollateralValue = .whole total)
    (hdebt : report.totalDebtValue = .whole debt)
    (havailable : report.availableBorrowsValue.isPositive = true) : report.Healthy := by
  have hplain := plain_of_graded hcs hreport htotal
  obtain rfl : owed = .whole debt := by rw [← hdebt, totalDebtValue_of hreport]
  have hnonneg := howed debt rfl
  have hfigures := figures_of hplain hnonneg hreport
  rw [hfigures.available, Quantity.isPositive_whole, decide_eq_true_eq] at havailable
  have hordered : average (·.ltv) cs ≤ average (·.liquidationThreshold) cs :=
    average_mono hplain fun c hc => (hcs c hc).grade
  exact ⟨_, hfigures.healthFactor,
    wad_le_factor_of_spare (worthOf_nonneg hplain) hnonneg hordered havailable⟩

end SolvencyReport

/-! ## Accounts -/

namespace Ledger

/-- No listed reserve lends more on its token than it liquidates at. -/
def Graded (l : Ledger) : Prop :=
  ∀ a r, l.reserve? a = some r → r.config.baseLtv ≤ r.config.liquidationThreshold

variable {l : Ledger} {s : Surroundings} {r : Reserve} {pos : Position} {user : Key} {now : Int}
  {cs : List Contribution} {debt : Quantity}

def GradedSofar (sofar : List Contribution × Quantity) : Prop :=
  (∀ c ∈ sofar.1, c.Graded) ∧ sofar.2.NonNegative

theorem debtValue_nonNegative {price : Int} (hprice : 0 < price)
    (h : debtValue r pos price now = .ok debt) : debt.NonNegative := by
  simp only [debtValue, bind_ok_iff] at h
  obtain ⟨_, hstable, _, hfloating, hvalue⟩ := h
  exact valueOf_nonNegative hprice
    (Int.add_nonneg (stableDebt_nonneg hstable) (variableDebt_nonneg hfloating)) hvalue

theorem assess_graded (hr : r.config.baseLtv ≤ r.config.liquidationThreshold)
    (h : assess s r pos now = .ok (cs, debt)) : GradedSofar (cs, debt) := by
  obtain ⟨hbacks, howes⟩ := assess_iff.1 h
  constructor
  · split at hbacks
    · obtain ⟨price, balance, value, hprice, hbalance, hvalue, rfl⟩ := hbacks
      exact List.forall_mem_singleton.2
        ⟨valueOf_nonNegative (PriceBoard.requirePrice_eq_ok.1 hprice).2
          (supplyBalance_nonneg hbalance) hvalue, hr⟩
    · rw [hbacks]
      exact List.forall_mem_nil _
  · split at howes
    · obtain ⟨price, hprice, hdebt⟩ := howes
      exact debtValue_nonNegative (PriceBoard.requirePrice_eq_ok.1 hprice).2 hdebt
    · rw [howes]
      exact Quantity.nonNegative_whole.2 (Int.le_refl 0)

theorem assessNext_graded (hl : l.Graded) {sofar next : List Contribution × Quantity}
    {e : Key × Position} (hsofar : GradedSofar sofar) (h : l.assessNext s now sofar e = .ok next) :
    GradedSofar next := by
  unfold assessNext at h
  cases hr : l.reserve? e.1 with
  | none =>
    rw [hr] at h
    cases h
  | some r =>
    rw [hr] at h
    simp only [bind_ok_iff, pure_ok_iff, Prod.exists] at h
    obtain ⟨mine, more, hassess, _, hsum, rfl⟩ := h
    obtain ⟨hmine, hmore⟩ := assess_graded (hl _ _ hr) hassess
    exact ⟨fun c hc => (List.mem_append.1 hc).elim (hsofar.1 c) (hmine c), hsofar.2.add hmore hsum⟩

theorem Graded.assessAll (hl : l.Graded) (h : l.assessAll s user now = .ok (cs, debt)) :
    GradedSofar (cs, debt) := by
  have hnone : GradedSofar ([], .whole 0) :=
    ⟨List.forall_mem_nil _, Quantity.nonNegative_whole.2 (Int.le_refl 0)⟩
  have hall : Answers (fun _ => True) GradedSofar (l.assessAll s user now) :=
    Answers.foldlM (fun e _ sofar hsofar => .of_result fun next hnext =>
      assessNext_graded hl hsofar hnext) hnone
  exact hall.result h

theorem marginContribution_graded (hmargin : s.margin.ltv ≤ s.margin.liquidationThreshold)
    (h : l.marginContribution s user = .ok cs) : ∀ c ∈ cs, c.Graded := by
  unfold marginContribution at h
  dsimp only at h
  split at h
  · rename_i hamount
    simp only [referenceValue, bind_ok_iff, pure_ok_iff] at h
    obtain ⟨value, hvalue, rfl⟩ := h
    split at hvalue
    · exact absurd hvalue throw_ne_ok
    · obtain ⟨_, hprice, hvalue⟩ := bind_ok_iff.1 hvalue
      have hpositive := (PriceBoard.requirePrice_eq_ok.1 hprice).2
      exact List.forall_mem_singleton.2
        ⟨valueOf_nonNegative hpositive (Int.le_of_lt hamount) hvalue, hmargin⟩
  · rw [← pure_ok_iff.1 h]
    exact List.forall_mem_nil _

theorem Graded.solvencyUsing (hl : l.Graded)
    (hmargin : s.margin.ltv ≤ s.margin.liquidationThreshold) {usingMargin : Bool}
    {report : SolvencyReport} (h : l.solvencyUsing s user now usingMargin = .ok report) :
    ∃ cs debt snapshot, GradedSofar (cs, debt) ∧
      SolvencyReport.of cs debt snapshot = .ok report := by
  unfold Ledger.solvencyUsing at h
  simp only [bind_ok_iff, Prod.exists] at h
  obtain ⟨cs, debt, hassess, h⟩ := h
  obtain ⟨hcs, hdebt⟩ := hl.assessAll hassess
  split at h
  · obtain ⟨more, hmore, hreport⟩ := bind_ok_iff.1 h
    have hmore := marginContribution_graded hmargin hmore
    exact ⟨_, debt, _, ⟨fun c hc => (List.mem_append.1 hc).elim (hcs c) (hmore c), hdebt⟩, hreport⟩
  · exact ⟨cs, debt, _, ⟨hcs, hdebt⟩, h⟩

end Ledger

end MoneyMarket
