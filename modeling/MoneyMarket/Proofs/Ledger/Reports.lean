import MoneyMarket.Proofs.Ledger.Orderly
import MoneyMarket.Proofs.Ledger.Standing

/-!
# Reports on a ledger in order

In a ledger that is in order every supply and every debt has a figure, and the parameters of all
collateral make sense. So nothing keeps an account from being reported on but a price that is
missing, or a margin reference asset that is not listed.
-/

namespace MoneyMarket

open MoneyMarket.FixedPoint MoneyMarket.Interest

/-! ## Balances -/

section Balances

variable {now : Int} {r : Reserve} {pos : Position}

theorem Reserve.Orderly.normalizedIncome_total (h : r.Orderly now) :
    ∃ index, r.normalizedIncome now = .ok index ∧ 0 ≤ index := by
  unfold normalizedIncome
  split
  · exact ⟨_, rfl, Int.le_of_lt h.income⟩
  · rw [linearFactor_ok h.supplyRate h.updated, ok_bind]
    have hfactor := ray_le_linearAfter h.supplyRate (Int.sub_nonneg.2 h.updated)
    exact rayMul_total (nonneg_of_ray_le hfactor) (Int.le_of_lt h.income)

theorem Reserve.Orderly.normalizedDebt_total (h : r.Orderly now) :
    ∃ index, r.normalizedDebt now = .ok index ∧ 0 ≤ index := by
  unfold normalizedDebt
  split
  · exact ⟨_, rfl, Int.le_of_lt h.debt⟩
  · rw [compoundedFactor_ok h.borrowRate h.updated, ok_bind]
    have hfactor := ray_le_compoundAfter h.borrowRate (Int.sub_nonneg.2 h.updated)
    exact rayMul_total (nonneg_of_ray_le hfactor) (Int.le_of_lt h.debt)

namespace Position.Orderly

variable (hpos : pos.Orderly now) (hr : r.Orderly now)
include hpos hr

theorem supplyBalance_total : ∃ balance, pos.supplyBalance r now = .ok balance ∧ 0 ≤ balance := by
  unfold supplyBalance
  split
  · exact ⟨0, rfl, Int.le_refl 0⟩
  · obtain ⟨index, hindex, hnonneg⟩ := hr.normalizedIncome_total
    rw [hindex, ok_bind]
    exact rayMul_total hpos.supply hnonneg

theorem variableDebt_total : ∃ debt, pos.variableDebt r now = .ok debt ∧ 0 ≤ debt := by
  unfold variableDebt
  split
  · exact ⟨0, rfl, Int.le_refl 0⟩
  · obtain ⟨index, hindex, hnonneg⟩ := hr.normalizedDebt_total
    rw [hindex, ok_bind]
    exact rayMul_total hpos.floating hnonneg

end Position.Orderly

end Balances

/-! ## Collateral -/

structure Contribution.Sound (c : Contribution) : Prop where
  plain : c.Plain
  ltv : 0 ≤ c.ltv
  threshold : 0 ≤ c.liquidationThreshold

@[mk_iff]
structure MarginParams.NonNegative (m : MarginParams) : Prop where
  ltv : 0 ≤ m.ltv
  liquidationThreshold : 0 ≤ m.liquidationThreshold
  liquidationBonus : 0 ≤ m.liquidationBonus

instance (m : MarginParams) : Decidable m.NonNegative := decidable_of_iff' _ (m.nonNegative_iff)

variable {cs : List Contribution} {debt : Int} {margin : Option MarginSnapshot}

theorem weigh_nonneg {parameter : Contribution → Int} (h : ∀ c ∈ cs, c.Plain)
    (hparameter : ∀ c ∈ cs, 0 ≤ parameter c) : 0 ≤ weigh parameter cs := by
  induction cs with
  | nil => exact Int.le_refl 0
  | cons c rest ih =>
    rw [weigh_cons]
    have hproduct := Int.mul_nonneg (hparameter c List.mem_cons_self) (h c List.mem_cons_self).2
    have hrest := ih (fun d hd => h d (List.mem_cons_of_mem _ hd))
      fun d hd => hparameter d (List.mem_cons_of_mem _ hd)
    exact Int.add_nonneg hproduct hrest

/-- The figures that are counted on with are whole and not negative. -/
structure SolvencyReport.Sound (report : SolvencyReport) : Prop where
  debt : ∃ debt, report.totalDebtValue = .whole debt ∧ 0 ≤ debt
  ltv : ∃ ltv, report.avgLtv = .whole ltv ∧ 0 ≤ ltv

theorem SolvencyReport.of_total (h : ∀ c ∈ cs, c.Sound) (hd : 0 ≤ debt) :
    ∃ report, SolvencyReport.of cs (.whole debt) margin = .ok report ∧ report.Sound := by
  have hplain : ∀ c ∈ cs, c.Plain := fun c hc => (h c hc).plain
  have hltv : 0 ≤ average (·.ltv) cs :=
    (average_nonneg_iff hplain).2 (weigh_nonneg hplain fun c hc => (h c hc).ltv)
  have hthreshold : 0 ≤ average (·.liquidationThreshold) cs :=
    (average_nonneg_iff hplain).2 (weigh_nonneg hplain fun c hc => (h c hc).threshold)
  obtain ⟨report, hreport⟩ : ∃ report, SolvencyReport.of cs (.whole debt) margin = .ok report :=
    (SolvencyReport.of_whole hplain hd).2 ⟨hltv, .inr hthreshold⟩
  refine ⟨report, hreport, ?_⟩
  unfold SolvencyReport.of at hreport
  simp only [totalValue_whole hplain, averageBy_whole hplain, ok_bind, bind_ok_iff,
    pure_ok_iff] at hreport
  obtain ⟨_, _, _, _, rfl⟩ := hreport
  exact ⟨⟨debt, rfl, hd⟩, ⟨_, rfl, hltv⟩⟩

/-! ## Accounts -/

variable {faults : Fault → Prop} {now : Int} {s : Surroundings}

section Answering

variable (hrefused : ∀ cause, faults (.refused cause))
include hrefused

theorem PriceBoard.requirePrice_answers (b : PriceBoard) (asset : Name) :
    Answers faults (fun price => b.requirePrice asset = .ok price ∧ 0 < price)
      (b.requirePrice asset) := by
  unfold requirePrice usable
  rw [Reported.whole?_whole]
  dsimp only
  split
  · exact ⟨rfl, ‹_›⟩
  · exact hrefused _

namespace Ledger

variable {l : Ledger} {user : Key} {r : Reserve} {pos : Position}

omit hrefused in
theorem Orderly.wholeTokens (h : l.Orderly now) : l.WholeTokens :=
  fun a r hr => (h.reserves a r hr).config.decimals

def Counted (sofar : List Contribution × Quantity) : Prop :=
  (∀ c ∈ sofar.1, c.Sound) ∧ ∃ debt, sofar.2 = .whole debt ∧ 0 ≤ debt

theorem assess_answers (hr : r.Orderly now) (hpos : pos.Orderly now) :
    Answers faults Counted (assess s r pos now) := by
  obtain ⟨balance, hbalance, hsupply⟩ := hpos.supplyBalance_total hr
  obtain ⟨stable, hstable, hstable'⟩ := hpos.stableDebt_total
  obtain ⟨floating, hfloating, hfloating'⟩ := hpos.variableDebt_total hr
  have hwhole := hr.config.decimals
  unfold assess
  dsimp only
  split
  · exact ⟨List.forall_mem_nil _, 0, rfl, Int.le_refl 0⟩
  · apply (s.prices.requirePrice_answers hrefused pos.asset).andThen
    rintro price ⟨_, hprice⟩
    have hcollateral : (contribution r pos price balance).Sound :=
      ⟨contribution_plain hprice hsupply, hr.config.baseLtv, hr.config.liquidationThreshold⟩
    have hdebt := wholeValue_nonneg (r := r) hprice (Int.add_nonneg hstable' hfloating')
    simp only [hbalance, debtValue, hstable, hfloating, ok_bind, valueOf_of_nonneg _ _ hwhole]
    cases countsAsCollateral r pos <;> cases pos.isBorrowing
    · exact ⟨List.forall_mem_nil _, 0, rfl, Int.le_refl 0⟩
    · exact ⟨List.forall_mem_nil _, _, rfl, hdebt⟩
    · exact ⟨List.forall_mem_singleton.2 hcollateral, 0, rfl, Int.le_refl 0⟩
    · exact ⟨List.forall_mem_singleton.2 hcollateral, _, rfl, hdebt⟩

theorem Orderly.assessAll_answers (h : l.Orderly now) (user : Key) :
    Answers faults Counted (l.assessAll s user now) := by
  unfold assessAll
  apply Answers.foldlM
  · rintro ⟨a, pos⟩ hmem sofar ⟨hsofar, debt, hdebt, hnonneg⟩
    have hpos : l.position? user a = some pos := Table.get?_of_mem hmem
    -- a position is in a listed asset only, so no reserve is missing
    obtain ⟨r, hr⟩ := h.listed user a pos hpos
    unfold assessNext
    simp only [hr]
    apply (assess_answers hrefused (h.reserves a r hr) (h.positions user a pos hpos)).andThen
    rintro ⟨cs, q⟩ ⟨hcs, more, rfl, hmore⟩
    rw [hdebt]
    exact ⟨fun c hc => (List.mem_append.1 hc).elim (hsofar c) (hcs c), debt + more, rfl,
      Int.add_nonneg hnonneg hmore⟩
  · exact ⟨List.forall_mem_nil _, 0, rfl, Int.le_refl 0⟩

theorem Orderly.referenceValue_answers (h : l.Orderly now) {amount : Int} (hamount : 0 ≤ amount) :
    Answers faults (fun q => ∃ value, q = .whole value ∧ 0 ≤ value)
      (l.referenceValue s amount) := by
  unfold referenceValue
  dsimp only
  split
  · exact hrefused _
  · rename_i r hr
    apply (s.prices.requirePrice_answers hrefused _).andThen
    rintro price ⟨_, hprice⟩
    rw [valueOf_of_nonneg _ _ (h.wholeTokens _ r hr)]
    exact ⟨_, rfl, wholeValue_nonneg hprice hamount⟩

theorem Orderly.marginContribution_answers (h : l.Orderly now) (hmargin : s.margin.NonNegative)
    (user : Key) :
    Answers faults (fun cs => ∀ c ∈ cs, c.Sound) (l.marginContribution s user) := by
  unfold marginContribution
  dsimp only
  split
  · rename_i hamount
    apply (h.referenceValue_answers hrefused (Int.le_of_lt hamount)).andThen
    rintro _ ⟨value, rfl, hvalue⟩
    have hmine : Contribution.Sound ⟨marginSource, (s.feed.snapshot user).collateralValue,
        .whole value, s.margin.ltv, s.margin.liquidationThreshold⟩ :=
      ⟨Contribution.plain_of_value rfl hvalue, hmargin.ltv, hmargin.liquidationThreshold⟩
    exact List.forall_mem_singleton.2 hmine
  · exact List.forall_mem_nil _

theorem Orderly.solvencyUsing_answers (h : l.Orderly now) (hmargin : s.margin.NonNegative)
    (user : Key) (usingMargin : Bool) :
    Answers faults SolvencyReport.Sound (l.solvencyUsing s user now usingMargin) := by
  unfold solvencyUsing
  apply (h.assessAll_answers hrefused user).andThen
  rintro ⟨cs, q⟩ ⟨hcs, debt, rfl, hdebt⟩
  dsimp only
  split
  · apply (h.marginContribution_answers hrefused hmargin user).andThen
    intro more hmore
    exact .of_total (SolvencyReport.of_total
      (fun c hc => (List.mem_append.1 hc).elim (hcs c) (hmore c)) hdebt)
  · exact .of_total (SolvencyReport.of_total hcs hdebt)

theorem Orderly.solvency_answers (h : l.Orderly now) (hmargin : s.margin.NonNegative) (user : Key) :
    Answers faults SolvencyReport.Sound (l.solvency s user now) :=
  h.solvencyUsing_answers hrefused hmargin user _

end Ledger

end Answering

end MoneyMarket
