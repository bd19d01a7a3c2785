import MoneyMarket.Proofs.Rounding
import MoneyMarket.Solvency

/-!
# Reports in whole numbers

As long as no token counts in fractions of its unit, every figure of a report is a whole number, and
the report is a function of four of them: the collateral, its weights by loan-to-value and by
liquidation threshold, and the debt.
-/

namespace MoneyMarket

open MoneyMarket.FixedPoint

/-! ## Weights -/

namespace Contribution

/-- The value of a contribution, if it is whole. -/
def worth (c : Contribution) : Int :=
  match c.value with
  | .whole n => n
  | .real _ => 0

def Plain (c : Contribution) : Prop := c.value = .whole c.worth ∧ 0 ≤ c.worth

theorem plain_of_value {c : Contribution} {n : Int} (h : c.value = .whole n) (hn : 0 ≤ n) :
    c.Plain := by
  have hworth : c.worth = n := by
    unfold worth
    rw [h]
  exact ⟨by rw [h, hworth], by omega⟩

end Contribution

variable {cs ds : List Contribution} {parameter : Contribution → Int} {debt : Int}
  {margin : Option MarginSnapshot} {report : SolvencyReport}

/-- The sum of a parameter, weighted by value. -/
def weigh (parameter : Contribution → Int) (cs : List Contribution) : Int :=
  (cs.map fun c => parameter c * c.worth).sum

@[simp] theorem weigh_nil : weigh parameter [] = 0 := rfl

@[simp] theorem weigh_cons (c : Contribution) :
    weigh parameter (c :: cs) = parameter c * c.worth + weigh parameter cs := by
  simp [weigh]

@[simp] theorem weigh_append :
    weigh parameter (cs ++ ds) = weigh parameter cs + weigh parameter ds := by
  simp [weigh]

def worthOf (cs : List Contribution) : Int := weigh (fun _ => 1) cs

@[simp] theorem worthOf_nil : worthOf [] = 0 := rfl

@[simp] theorem worthOf_cons (c : Contribution) : worthOf (c :: cs) = c.worth + worthOf cs := by
  simp [worthOf]

@[simp] theorem worthOf_append : worthOf (cs ++ ds) = worthOf cs + worthOf ds := weigh_append

theorem worthOf_nonneg (h : ∀ c ∈ cs, c.Plain) : 0 ≤ worthOf cs := by
  induction cs with
  | nil => simp
  | cons c rest ih =>
    have hc := (h c (by simp)).2
    have hrest := ih fun d hd => h d (by simp [hd])
    simp
    omega

theorem weigh_of_worthless (h : ∀ c ∈ cs, c.Plain) (hzero : worthOf cs = 0) :
    weigh parameter cs = 0 := by
  induction cs with
  | nil => simp
  | cons c rest ih =>
    have hrest : ∀ d ∈ rest, d.Plain := fun d hd => h d (by simp [hd])
    have hc := (h c (by simp)).2
    have hnonneg := worthOf_nonneg hrest
    simp only [worthOf_cons] at hzero
    have hworth : c.worth = 0 := by omega
    simp [hworth, ih hrest (by omega)]

theorem sumOf_whole {f : Contribution → Except Fault Quantity} {g : Contribution → Int}
    (h : ∀ c ∈ cs, f c = .ok (.whole (g c))) : sumOf f cs = .ok (.whole (cs.map g).sum) := by
  have hfold : ∀ n : Int, cs.foldlM (fun (sum : Quantity) c => do sum.add (← f c)) (.whole n) =
      (.ok (.whole (n + (cs.map g).sum)) : Except Fault Quantity) := by
    induction cs with
    | nil =>
      intro n
      simp [pure, Except.pure]
    | cons c rest ih =>
      intro n
      have hc := h c (by simp)
      have hrest := ih (fun d hd => h d (by simp [hd])) (n + g c)
      simp only [List.foldlM_cons, hc, ok_bind, Quantity.add_whole, hrest, List.map_cons,
        List.sum_cons, Int.add_assoc]
  unfold sumOf
  rw [hfold, Int.zero_add]

theorem totalValue_whole (h : ∀ c ∈ cs, c.Plain) : totalValue cs = .ok (.whole (worthOf cs)) := by
  have hvalue : ∀ c ∈ cs, (.ok c.value : Except Fault Quantity) = .ok (.whole (1 * c.worth)) := by
    intro c hc
    rw [(h c hc).1, Int.one_mul]
  exact sumOf_whole hvalue

def average (parameter : Contribution → Int) (cs : List Contribution) : Int :=
  weigh parameter cs / worthOf cs

theorem averageBy_whole (h : ∀ c ∈ cs, c.Plain) :
    averageBy parameter cs (.whole (worthOf cs)) = .ok (.whole (average parameter cs)) := by
  have hproduct : ∀ c ∈ cs, Quantity.mul (.whole (parameter c)) c.value =
      .ok (.whole (parameter c * c.worth)) := by
    intro c hc
    rw [(h c hc).1]
    rfl
  unfold averageBy average
  rw [Quantity.isPositive_whole]
  split
  · rename_i hpos
    rw [sumOf_whole hproduct, ok_bind]
    exact Quantity.floorDiv_whole _ (of_decide_eq_true hpos)
  · rename_i hnone
    -- without collateral the quotient is by zero, and zero by convention
    have hzero : worthOf cs = 0 := by
      have := worthOf_nonneg h
      simp only [decide_eq_true_eq] at hnone
      omega
    rw [hzero, Int.ediv_zero]
    rfl

theorem average_mul_le (h : ∀ c ∈ cs, c.Plain) :
    average parameter cs * worthOf cs ≤ weigh parameter cs := by
  rcases Int.lt_or_eq_of_le (worthOf_nonneg h) with hpos | hzero
  · exact Int.ediv_mul_le _ (Int.ne_of_gt hpos)
  · rw [← hzero, Int.mul_zero, weigh_of_worthless h hzero.symm]

/-- The average loses less than one basis point of the whole value. -/
theorem weigh_le (h : ∀ c ∈ cs, c.Plain) :
    weigh parameter cs ≤ average parameter cs * worthOf cs + worthOf cs := by
  rcases Int.lt_or_eq_of_le (worthOf_nonneg h) with hpos | hzero
  · have hlt := Int.lt_ediv_add_one_mul_self (weigh parameter cs) hpos
    rw [Int.add_mul, Int.one_mul] at hlt
    exact Int.le_of_lt hlt
  · rw [← hzero, weigh_of_worthless h hzero.symm, Int.mul_zero, Int.add_zero]

theorem average_nonneg_iff (h : ∀ c ∈ cs, c.Plain) :
    0 ≤ average parameter cs ↔ 0 ≤ weigh parameter cs := by
  rcases Int.lt_or_eq_of_le (worthOf_nonneg h) with hpos | hzero
  · unfold average
    rw [Int.le_ediv_iff_mul_le hpos, Int.zero_mul]
  · rw [weigh_of_worthless h hzero.symm, average, weigh_of_worthless h hzero.symm, Int.zero_ediv]

/-! ## Reports -/

/-- The health factor of a debt with collateral at an average threshold. -/
def factor (collateral threshold debt : Int) : Int :=
  if debt = 0 then maxAmount
  else divRound wad (mulRound whole halfWhole collateral threshold) debt

section Factor

variable {c t c' t' d d' : Int}

theorem wad_le_factor_zero : wad ≤ factor c t 0 := by
  simp only [factor, if_true]
  decide

theorem factor_of_less_debt (hc : 0 ≤ c) (ht : d' = 0 ∨ 0 ≤ t) (hd' : 0 ≤ d') (hle : d' ≤ d) :
    wad ≤ factor c t d' ∨ factor c t d ≤ factor c t d' := by
  by_cases hzero : d' = 0
  · left
    rw [hzero]
    exact wad_le_factor_zero
  · right
    have hpower := percentRound_nonneg hc (ht.resolve_left hzero)
    unfold factor
    rw [if_neg hzero, if_neg (by omega)]
    exact divRound_antitone (by decide) hpower (by omega) hle

theorem factor_mono (hd : 0 ≤ d) (h : d = 0 ∨ c * t ≤ c' * t') : factor c t d ≤ factor c' t' d := by
  unfold factor
  split
  · exact Int.le_refl _
  · rename_i hne
    have hpower : mulRound whole halfWhole c t ≤ mulRound whole halfWhole c' t' := by
      have := h.resolve_left hne
      exact Int.ediv_le_ediv (by decide) (by omega)
    exact divRound_mono (by decide) (by omega) hpower

/-- If the weighted collateral falls by no more than the value of all of it, the health factor falls
by less than a basis point of that value over the debt, and one. -/
theorem factor_fall (hd : 0 ≤ d) (hc : 0 ≤ c') (h : c * t ≤ c' * t' + c') :
    whole * (d * (factor c t d - factor c' t' d - 1)) < (c' + whole) * wad := by
  have hright : 0 < (c' + whole) * wad := Int.mul_pos (by unfold whole; omega) (by decide)
  unfold factor
  split
  · rename_i hzero
    rw [hzero, Int.zero_mul, Int.mul_zero]
    exact hright
  · rename_i hne
    have hpos : 0 < d := by omega
    -- `f` is the largest factor that the power covers, and `f' + 1` is one too many for `power'`
    have hbefore := (le_divRound_iff wad hpos).1
      (Int.le_refl (divRound wad (mulRound whole halfWhole c t) d))
    have hafter := mt (le_divRound_iff wad hpos).2 (Int.not_le.2
      (Int.lt_succ (divRound wad (mulRound whole halfWhole c' t') d)))
    have hpower : whole * (mulRound whole halfWhole c t - mulRound whole halfWhole c' t') <
        c' + whole := by
      have h₁ : mulRound whole halfWhole c t = (c * t + 5000) / 10000 := rfl
      have h₂ : mulRound whole halfWhole c' t' = (c' * t' + 5000) / 10000 := rfl
      rw [h₁, h₂]
      unfold whole
      omega
    generalize mulRound whole halfWhole c t = power at hbefore hpower ⊢
    generalize mulRound whole halfWhole c' t' = power' at hafter hpower ⊢
    generalize divRound wad power d = f at hbefore ⊢
    generalize divRound wad power' d = f' at hafter ⊢
    have hscaled := Int.mul_lt_mul_of_pos_right hpower (show 0 < wad by decide)
    have hdebt : d * (f - f' - 1) < (power - power') * wad := by
      linarith
    unfold whole at hscaled ⊢
    linarith

end Factor

theorem debt_nonneg_of_healthFactor {collateral threshold q : Quantity}
    (h : healthFactor collateral (.whole debt) threshold = .ok q) : 0 ≤ debt := by
  unfold healthFactor at h
  rw [Quantity.isZero_whole] at h
  by_cases hzero : debt = 0
  · omega
  · simp only [hzero, decide_false, Bool.false_eq_true, if_false, bind_ok_iff] at h
    obtain ⟨power, _, h⟩ := h
    cases power with
    | whole power =>
      obtain ⟨_, h, _⟩ := map_ok_iff.1 h
      exact Int.le_of_lt (wadDiv_ok_iff.1 h).2.1
    | real power =>
      simp only [Quantity.wadDiv, Quantity.divRounded, bind_ok_iff] at h
      obtain ⟨_, _, _, hdebt, _⟩ := h
      unfold Quantity.requireNonNegative at hdebt
      split at hdebt
      · cases hdebt
      · rename_i hnonneg
        simpa using hnonneg

theorem healthFactor_whole {collateral threshold : Int} {q : Quantity} (hd : 0 ≤ debt) :
    healthFactor (.whole collateral) (.whole debt) (.whole threshold) = .ok q ↔
      (debt = 0 ∨ 0 ≤ collateral ∧ 0 ≤ threshold) ∧ q = .whole (factor collateral threshold debt) := by
  unfold healthFactor factor
  rw [Quantity.isZero_whole]
  by_cases hzero : debt = 0
  · simp only [hzero, decide_true, if_true, pure_ok_iff, true_or, true_and]
    exact eq_comm
  · have hpos : 0 < debt := by omega
    simp only [hzero, decide_false, Bool.false_eq_true, if_false, Quantity.percentMul_whole,
      bind_ok_iff, map_ok_iff, percentMul_ok_iff, false_or]
    constructor
    · rintro ⟨_, ⟨_, ⟨hc, ht, rfl⟩, rfl⟩, h⟩
      simp only [Quantity.wadDiv_whole, map_ok_iff, wadDiv_ok_iff] at h
      obtain ⟨_, ⟨_, _, rfl⟩, rfl⟩ := h
      exact ⟨⟨hc, ht⟩, rfl⟩
    · rintro ⟨⟨hc, ht⟩, rfl⟩
      refine ⟨_, ⟨_, ⟨hc, ht, rfl⟩, rfl⟩, ?_⟩
      simp only [Quantity.wadDiv_whole, map_ok_iff, wadDiv_ok_iff]
      exact ⟨_, ⟨percentRound_nonneg hc ht, hpos, rfl⟩, rfl⟩

/-- What an account can still borrow. -/
def spare (collateral ltv debt : Int) : Int := max 0 (mulRound whole halfWhole collateral ltv - debt)

theorem availableBorrows_whole {collateral ltv : Int} {q : Quantity} :
    availableBorrows (.whole collateral) (.whole debt) (.whole ltv) = .ok q ↔
      (0 ≤ collateral ∧ 0 ≤ ltv) ∧ q = .whole (spare collateral ltv debt) := by
  simp only [availableBorrows, Quantity.percentMul_whole, bind_ok_iff, map_ok_iff,
    percentMul_ok_iff]
  have hspare : (if (Quantity.whole (mulRound whole halfWhole collateral ltv)).le (.whole debt) then
      pure (.whole 0) else (Quantity.whole (mulRound whole halfWhole collateral ltv)).sub
        (.whole debt) : Except Fault Quantity) = .ok (.whole (spare collateral ltv debt)) := by
    unfold spare
    rw [Quantity.le_whole, Quantity.sub_whole]
    by_cases hle : mulRound whole halfWhole collateral ltv ≤ debt
    · rw [if_pos (decide_eq_true hle), Int.max_eq_left (by omega)]
      rfl
    · rw [if_neg (by simpa using hle), Int.max_eq_right (by omega)]
  constructor
  · rintro ⟨_, ⟨_, ⟨hc, hl, rfl⟩, rfl⟩, h⟩
    rw [hspare, Except.ok.injEq] at h
    exact ⟨⟨hc, hl⟩, h.symm⟩
  · rintro ⟨⟨hc, hl⟩, rfl⟩
    exact ⟨_, ⟨_, ⟨hc, hl, rfl⟩, rfl⟩, hspare⟩

/-- The figures of a report in whole numbers. -/
structure SolvencyReport.Whole (report : SolvencyReport) (cs : List Contribution) (debt : Int) :
    Prop where
  collateral : report.totalCollateralValue = .whole (worthOf cs)
  totalDebt : report.totalDebtValue = .whole debt
  threshold : report.avgLiquidationThreshold = .whole (average (·.liquidationThreshold) cs)
  healthFactor : report.healthFactor =
    .whole (factor (worthOf cs) (average (·.liquidationThreshold) cs) debt)

structure SolvencyReport.Figures (report : SolvencyReport) (cs : List Contribution) (debt : Int) :
    Prop extends report.Whole cs debt where
  ltv : report.avgLtv = .whole (average (·.ltv) cs)
  ltv_nonneg : 0 ≤ average (·.ltv) cs
  available : report.availableBorrowsValue =
    .whole (spare (worthOf cs) (average (·.ltv) cs) debt)

theorem SolvencyReport.of_whole (h : ∀ c ∈ cs, c.Plain) (hd : 0 ≤ debt) :
    (∃ report, SolvencyReport.of cs (.whole debt) margin = .ok report) ↔
      0 ≤ average (·.ltv) cs ∧ (debt = 0 ∨ 0 ≤ average (·.liquidationThreshold) cs) := by
  have hworth := worthOf_nonneg h
  unfold SolvencyReport.of
  simp only [totalValue_whole h, averageBy_whole h, ok_bind]
  constructor
  · rintro ⟨report, hreport⟩
    simp only [bind_ok_iff] at hreport
    obtain ⟨_, hfactor, _, hborrows, _⟩ := hreport
    have hthreshold := ((healthFactor_whole hd).1 hfactor).1
    have hltv := (availableBorrows_whole.1 hborrows).1.2
    exact ⟨hltv, hthreshold.imp_right And.right⟩
  · rintro ⟨hltv, hthreshold⟩
    have hfactor := (healthFactor_whole hd).2 ⟨hthreshold.imp_right fun ht => ⟨hworth, ht⟩, rfl⟩
    have hborrows := (@availableBorrows_whole debt _ _ _).2 ⟨⟨hworth, hltv⟩, rfl⟩
    rw [hfactor, ok_bind, hborrows]
    exact ⟨_, rfl⟩

theorem SolvencyReport.averages_of {owed : Quantity} (h : ∀ c ∈ cs, c.Plain)
    (hreport : SolvencyReport.of cs owed margin = .ok report) :
    report.collateral = cs ∧ report.totalCollateralValue = .whole (worthOf cs) ∧
      report.avgLtv = .whole (average (·.ltv) cs) ∧
      report.avgLiquidationThreshold = .whole (average (·.liquidationThreshold) cs) := by
  unfold SolvencyReport.of at hreport
  simp only [totalValue_whole h, averageBy_whole h, ok_bind, bind_ok_iff, pure_ok_iff] at hreport
  obtain ⟨_, _, _, _, rfl⟩ := hreport
  exact ⟨rfl, rfl, rfl, rfl⟩

theorem SolvencyReport.available_of {owed : Quantity} {collateral ltv : Int}
    (hreport : SolvencyReport.of cs owed margin = .ok report)
    (hcollateral : report.totalCollateralValue = .whole collateral)
    (hdebt : report.totalDebtValue = .whole debt) (hltv : report.avgLtv = .whole ltv) :
    0 ≤ debt ∧ report.availableBorrowsValue = .whole (spare collateral ltv debt) := by
  unfold SolvencyReport.of at hreport
  simp only [bind_ok_iff, pure_ok_iff] at hreport
  obtain ⟨_, _, _, _, _, _, _, hfactor, _, hborrows, rfl⟩ := hreport
  subst hcollateral hdebt hltv
  exact ⟨debt_nonneg_of_healthFactor hfactor, (availableBorrows_whole.1 hborrows).2⟩

theorem SolvencyReport.figures_of (h : ∀ c ∈ cs, c.Plain) (hd : 0 ≤ debt)
    (hreport : SolvencyReport.of cs (.whole debt) margin = .ok report) : report.Figures cs debt := by
  unfold SolvencyReport.of at hreport
  simp only [totalValue_whole h, averageBy_whole h, ok_bind, bind_ok_iff, pure_ok_iff] at hreport
  obtain ⟨_, hfactor, _, hborrows, rfl⟩ := hreport
  obtain ⟨⟨_, hltv⟩, havailable⟩ := availableBorrows_whole.1 hborrows
  exact ⟨⟨rfl, rfl, rfl, ((healthFactor_whole hd).1 hfactor).2⟩, rfl, hltv, havailable⟩

theorem SolvencyReport.whole_of (h : ∀ c ∈ cs, c.Plain) (hd : 0 ≤ debt)
    (hreport : SolvencyReport.of cs (.whole debt) margin = .ok report) : report.Whole cs debt :=
  (figures_of h hd hreport).toWhole

/-- Every report on an account is made of contributions and a debt. -/
theorem Ledger.solvencyUsing_of {l : Ledger} {s : Surroundings} {user : Key} {now : Int}
    {usingMargin : Bool} (h : l.solvencyUsing s user now usingMargin = .ok report) :
    ∃ cs owed margin, SolvencyReport.of cs owed margin = .ok report := by
  unfold solvencyUsing at h
  simp only [bind_ok_iff, Prod.exists] at h
  obtain ⟨cs, owed, _, h⟩ := h
  split at h
  · obtain ⟨more, _, h⟩ := bind_ok_iff.1 h
    exact ⟨_, owed, _, h⟩
  · exact ⟨cs, owed, _, h⟩

/-- The health factor is at least one. -/
def SolvencyReport.Healthy (report : SolvencyReport) : Prop :=
  ∃ factor : Int, report.healthFactor = .whole factor ∧ wad ≤ factor

/-- The account is healthy now, or no less so than it was. -/
def SolvencyReport.NoWorse (before after : SolvencyReport) : Prop :=
  ∃ factor factor' : Int, before.healthFactor = .whole factor ∧
    after.healthFactor = .whole factor' ∧ (wad ≤ factor' ∨ factor ≤ factor')

theorem SolvencyReport.Healthy.not_liquidatable (h : report.Healthy) :
    report.isLiquidatable = false := by
  obtain ⟨factor, hfactor, hle⟩ := h
  unfold isLiquidatable
  rw [hfactor, Quantity.lt_whole, decide_eq_false (Int.not_lt.2 hle)]

theorem SolvencyReport.Whole.healthy (h : report.Whole cs debt)
    (hsafe : report.isLiquidatable = false) : report.Healthy := by
  refine ⟨_, h.healthFactor, ?_⟩
  unfold SolvencyReport.isLiquidatable at hsafe
  rw [h.healthFactor, Quantity.lt_whole, decide_eq_false_iff_not] at hsafe
  exact Int.not_lt.1 hsafe

end MoneyMarket
