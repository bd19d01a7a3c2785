import MoneyMarket.Proofs.Ledger.Settling
import MoneyMarket.Proofs.Ledger.Standing

/-!
# What a liquidation may move

A liquidation is planned on what the account shows. It repays no more of the debt than was asked
for and than the close factor allows, and seizes no more than is supplied.
-/

namespace MoneyMarket

open MoneyMarket.FixedPoint MoneyMarket.LedgerWork

/-! ## Seizure -/

namespace SeizureTerms

/-- Both assets have a price, and neither token counts in fractions of its unit. -/
structure Usable (t : SeizureTerms) : Prop where
  collateralPrice : 0 < t.collateralPrice
  collateralDecimals : 0 ≤ t.collateralDecimals
  debtPrice : 0 < t.debtPrice
  debtDecimals : 0 ≤ t.debtDecimals

variable {t : SeizureTerms} {debt available : Int} {q seized repaid : Quantity}

theorem units_pos (decimals : Int) : (0 : Int) < Numeral.tenPow decimals.toNat := by
  exact_mod_cast Numeral.tenPow_pos decimals.toNat

/-- The collateral that a debt is worth with the bonus, where both tokens count in whole units. -/
def wanted (t : SeizureTerms) (debt : Int) : Int :=
  mulRound whole halfWhole (t.debtPrice * debt * Numeral.tenPow t.collateralDecimals.toNat) t.bonus /
    (t.collateralPrice * Numeral.tenPow t.debtDecimals.toNat)

/-- The debt that an amount of collateral is worth before the bonus. -/
def worth (t : SeizureTerms) (available : Int) : Int :=
  t.collateralPrice * available * Numeral.tenPow t.debtDecimals.toNat /
    (t.debtPrice * Numeral.tenPow t.collateralDecimals.toNat)

/-- The debt that an amount of collateral repays. -/
def repays (t : SeizureTerms) (available : Int) : Int := divRound whole (t.worth available) t.bonus

theorem collateralFor_eq (ht : t.Usable) (hbonus : 0 ≤ t.bonus) (hdebt : 0 ≤ debt) :
    t.collateralFor debt = .ok (.whole (t.wanted debt)) ∧ 0 ≤ t.wanted debt := by
  have hunit := Int.mul_pos ht.collateralPrice (units_pos t.debtDecimals)
  have hvalue := Int.mul_nonneg (Int.mul_nonneg (Int.le_of_lt ht.debtPrice) hdebt)
    (Int.le_of_lt (units_pos t.collateralDecimals))
  unfold collateralFor wanted
  simp only [tokenUnits_of_nonneg ht.collateralDecimals, tokenUnits_of_nonneg ht.debtDecimals,
    ok_bind, Quantity.mul_whole, Quantity.percentMul_whole, percentMul, mulChecked_ok _ _ hvalue hbonus,
    Except.map, Quantity.floorDiv_whole _ hunit]
  exact ⟨trivial, Int.ediv_nonneg (percentRound_nonneg hvalue hbonus) (Int.le_of_lt hunit)⟩

theorem worth_nonneg (ht : t.Usable) (havailable : 0 ≤ available) : 0 ≤ t.worth available :=
  Int.ediv_nonneg (Int.mul_nonneg (Int.mul_nonneg (Int.le_of_lt ht.collateralPrice) havailable)
      (Int.le_of_lt (units_pos t.debtDecimals)))
    (Int.le_of_lt (Int.mul_pos ht.debtPrice (units_pos t.collateralDecimals)))

theorem debtFor_eq (ht : t.Usable) :
    t.debtFor (.whole available) = (percentDiv (t.worth available) t.bonus).map .whole := by
  have hunit := Int.mul_pos ht.debtPrice (units_pos t.collateralDecimals)
  unfold debtFor worth
  simp only [tokenUnits_of_nonneg ht.collateralDecimals, tokenUnits_of_nonneg ht.debtDecimals,
    ok_bind, Quantity.mul_whole, Quantity.floorDiv_whole _ hunit, Quantity.percentDiv_whole]

theorem collateralFor_whole (ht : t.Usable) (h : t.collateralFor debt = .ok q) :
    q = .whole (t.wanted debt) ∧ 0 ≤ t.wanted debt := by
  unfold collateralFor at h
  simp only [tokenUnits_of_nonneg ht.collateralDecimals, tokenUnits_of_nonneg ht.debtDecimals,
    ok_bind, Quantity.mul_whole, Quantity.percentMul_whole, bind_ok_iff, map_ok_iff,
    percentMul_ok_iff] at h
  obtain ⟨_, ⟨_, ⟨hvalue, hbonus, rfl⟩, rfl⟩, h⟩ := h
  have hunit := Int.mul_pos ht.collateralPrice (units_pos t.debtDecimals)
  rw [Quantity.floorDiv_whole _ hunit] at h
  cases h
  exact ⟨rfl, Int.ediv_nonneg (percentRound_nonneg hvalue hbonus) (Int.le_of_lt hunit)⟩

theorem debtFor_whole (ht : t.Usable) (h : t.debtFor (.whole available) = .ok q) :
    0 ≤ t.worth available ∧ 0 < t.bonus ∧
      q = .whole (divRound whole (t.worth available) t.bonus) := by
  rw [debtFor_eq ht, map_ok_iff] at h
  obtain ⟨_, h, rfl⟩ := h
  obtain ⟨hworth, hbonus, rfl⟩ := percentDiv_ok_iff.1 h
  exact ⟨hworth, hbonus, rfl⟩

/-- No more is seized than is available, and no more repaid than is to be covered. -/
theorem seize_whole (ht : t.Usable) (hdebt : 0 ≤ debt) (havailable : 0 ≤ available)
    (h : t.seize debt (.whole available) = .ok (seized, repaid)) : ∃ m n,
      seized = .whole m ∧ repaid = .whole n ∧ 0 ≤ m ∧ m ≤ available ∧ 0 ≤ n ∧ n ≤ debt := by
  unfold seize at h
  obtain ⟨wanted, hwanted, h₁⟩ := bind_ok_iff.1 h
  obtain ⟨rfl, hw⟩ := collateralFor_whole ht hwanted
  rw [Quantity.le_whole] at h₁
  split at h₁
  · rename_i hfits
    cases h₁
    exact ⟨t.wanted debt, debt, rfl, rfl, hw, of_decide_eq_true hfits, hdebt, Int.le_refl _⟩
  · obtain ⟨_, hcovered, h₂⟩ := bind_ok_iff.1 h₁
    obtain ⟨hworth, hbonus, rfl⟩ := debtFor_whole ht hcovered
    have hrepaid := divRound_nonneg (show 0 ≤ whole by decide) hworth (Int.le_of_lt hbonus)
    rw [Quantity.least_whole] at h₂
    cases h₂
    exact ⟨available, _, rfl, rfl, havailable, Int.le_refl _, by omega, by omega⟩

end SeizureTerms

/-! ## Plans -/

/-- The figures of a liquidation: what the account shows before it, and what is moved. -/
structure LiquidationFigures where
  healthFactor : Int
  stableDebt : Int
  variableDebt : Int
  supply : Int
  repaid : Int
  seized : Int

namespace LiquidationFigures

def fromStable (f : LiquidationFigures) : Int := min f.repaid f.stableDebt

def fromVariable (f : LiquidationFigures) : Int := f.repaid - f.fromStable

structure Shown (f : LiquidationFigures) (l : Ledger) (s : Surroundings) (c : LiquidationCall)
    (now : Int) : Prop where
  healthFactor : ∃ report, l.solvency s c.borrower now = .ok report ∧
    report.healthFactor = .whole f.healthFactor
  debts : l.Owes now c.borrower c.debtAsset f.stableDebt f.variableDebt
  supply : l.Holds now c.borrower c.collateralAsset f.supply

structure Reported (f : LiquidationFigures) (result : LiquidationResult) : Prop where
  healthFactor : result.healthFactorBefore = .whole f.healthFactor
  repaid : result.debtRepaid = .whole f.repaid
  seized : result.collateralSeized = .whole f.seized

/-- The account was liquidatable, and what is moved is within the limits of a call. -/
structure Within (f : LiquidationFigures) (params : LiquidationParams) (c : LiquidationCall) :
    Prop where
  unhealthy : f.healthFactor < wad
  limit : ∃ most, percentMul (f.stableDebt + f.variableDebt)
      (params.closeFactorAt (.whole f.healthFactor)) = .ok most ∧
    f.repaid ≤ min c.debtToCover most ∧ min c.debtToCover most ≤ f.stableDebt + f.variableDebt
  repaid_nonneg : 0 ≤ f.repaid
  seized_nonneg : 0 ≤ f.seized
  available : f.seized ≤ f.supply

/-- What has become of the borrower and of the two reserves. Stable debt is paid exactly, variable
debt and supply are lower up to rounding. -/
structure Moved (f : LiquidationFigures) (l m : Ledger) (c : LiquidationCall) (now : Int) :
    Prop where
  liquidity : ∀ a, m.owed Reserve.availableLiquidity a = l.owed Reserve.availableLiquidity a +
    (if a = c.debtAsset.key then f.repaid else 0) -
    (if a = c.collateralAsset.key ∧ c.receiveUnderlying then f.seized else 0)
  covered : 0 ≤ m.owed Reserve.availableLiquidity c.debtAsset ∧
    0 ≤ m.owed Reserve.availableLiquidity c.collateralAsset
  debts : ∃ left, m.Owes now c.borrower c.debtAsset (f.stableDebt - f.fromStable) left ∧
    Lowered (m.owed Reserve.variableBorrowIndex c.debtAsset) f.variableDebt f.fromVariable left
  supply : ∃ left, m.Holds now c.borrower c.collateralAsset left ∧
    Lowered (m.owed Reserve.liquidityIndex c.collateralAsset) f.supply f.seized left

end LiquidationFigures

namespace Ledger

variable {l : Ledger} {s : Surroundings} {params : LiquidationParams} {now : Int}

theorem closeFactorAt_le (hclose : params.closeFactor ≤ whole) (q : Quantity) :
    params.closeFactorAt q ≤ whole := by
  unfold LiquidationParams.closeFactorAt
  split
  · decide
  · split
    · exact Int.le_refl _
    · exact hclose

theorem planLiquidation_ok {borrower debtAsset : Name} {debtToCover : Int} {usable : Bool}
    {plan : LiquidationPlan}
    (h : l.planLiquidation s params borrower debtAsset debtToCover now usable = .ok plan) :
    ∃ report, 0 < debtToCover ∧ l.solvency s borrower now = .ok report ∧
      (Quantity.whole wad).le report.healthFactor = false ∧ usable = true ∧
      plan.healthFactor = report.healthFactor ∧
      l.Owes now borrower debtAsset plan.stableDebt plan.variableDebt ∧
      plan.stableDebt + plan.variableDebt ≠ 0 ∧
      percentMul (plan.stableDebt + plan.variableDebt) (params.closeFactorAt report.healthFactor) =
        .ok plan.maxLiquidatableDebt ∧
      plan.debtToCover = min debtToCover plan.maxLiquidatableDebt := by
  unfold planLiquidation at h
  simp only [guard_ok_iff, bind_ok_iff, Prod.exists, pure_ok_iff] at h
  obtain ⟨hpositive, report, hreport, hunhealthy, husable, r, hr, stable, floating, hdebts, howing,
    most, hmost, rfl⟩ := h
  refine ⟨report, by omega, hreport, ?_, by simpa using husable, rfl, ⟨r, ?_, hdebts⟩, howing,
    hmost, rfl⟩
  · simpa using hunhealthy
  · exact reserve_ok_iff.1 hr

theorem WholeTokens.usable (hwhole : l.WholeTokens) {collateral debt : Reserve} {a b : Key}
    (hcollateral : l.reserve? a = some collateral) (hdebt : l.reserve? b = some debt)
    {prices : PriceBoard} {collateralAsset debtAsset : Name} {collateralPrice debtPrice : Int}
    (hcollateralPrice : prices.requirePrice collateralAsset = .ok collateralPrice)
    (hdebtPrice : prices.requirePrice debtAsset = .ok debtPrice) (bonus : Int) :
    SeizureTerms.Usable ⟨collateralPrice, collateral.config.decimals, debtPrice,
      debt.config.decimals, bonus⟩ where
  collateralPrice := (PriceBoard.requirePrice_eq_ok.1 hcollateralPrice).2
  collateralDecimals := hwhole _ _ hcollateral
  debtPrice := (PriceBoard.requirePrice_eq_ok.1 hdebtPrice).2
  debtDecimals := hwhole _ _ hdebt

theorem planStandardLiquidation_ok {c : LiquidationCall} {result : LiquidationResult}
    (h : l.planStandardLiquidation s params c now = .ok result) :
    ∃ (collateral debt : Reserve) (supply : Int) (plan : LiquidationPlan)
      (collateralPrice debtPrice : Int), l.reserve? c.collateralAsset = some collateral ∧
      l.reserve? c.debtAsset = some debt ∧ requireOpen collateral debt = .ok () ∧
      l.supplyOf c.borrower c.collateralAsset collateral now = .ok supply ∧
      l.planLiquidation s params c.borrower c.debtAsset c.debtToCover now
        (l.seizable c.borrower c.collateralAsset collateral supply) = .ok plan ∧
      s.prices.requirePrice c.collateralAsset = .ok collateralPrice ∧
      s.prices.requirePrice c.debtAsset = .ok debtPrice ∧
      SeizureTerms.seize ⟨collateralPrice, collateral.config.decimals, debtPrice,
          debt.config.decimals, collateral.config.liquidationBonus⟩ plan.debtToCover
        (.whole supply) = .ok (result.collateralSeized, result.debtRepaid) ∧
      result.healthFactorBefore = plan.healthFactor := by
  unfold planStandardLiquidation collateralToSeize at h
  simp only [guard_ok_iff, bind_ok_iff, Prod.exists, pure_ok_iff, reserve_ok_iff] at h
  obtain ⟨collateral, hcollateral, debt, hdebt, _, hopen, supply, hsupply, plan, hplan, seized, repaid,
    ⟨collateralPrice, hcollateralPrice, debtPrice, hdebtPrice, hseize⟩, _, rfl⟩ := h
  exact ⟨collateral, debt, supply, plan, collateralPrice, debtPrice, hcollateral, hdebt, hopen,
    hsupply, hplan, hcollateralPrice, hdebtPrice, hseize, rfl⟩

/-- What is planned among whole tokens is whole. -/
theorem planStandardLiquidation_amounts (hwhole : l.WholeTokens) {c : LiquidationCall}
    {result : LiquidationResult} (h : l.planStandardLiquidation s params c now = .ok result) :
    ∃ repaid seized, result.debtRepaid = .whole repaid ∧ result.collateralSeized = .whole seized := by
  obtain ⟨collateral, debt, balance, plan, _, _, hcollateral, hdebt, _, hbalance, hplan,
    hcollateralPrice, hdebtPrice, hseize, _⟩ := planStandardLiquidation_ok h
  obtain ⟨_, hpositive, _, _, _, _, _, _, hmost, hcover⟩ := planLiquidation_ok hplan
  have hmost := percentMul_nonneg hmost
  rw [supplyOf_eq] at hbalance
  obtain ⟨seized, repaid, hseized, hrepaid, _⟩ := SeizureTerms.seize_whole
    (hwhole.usable hcollateral hdebt hcollateralPrice hdebtPrice _) (by omega)
    (supplyBalance_nonneg hbalance) hseize
  exact ⟨repaid, seized, hrepaid, hseized⟩

theorem planStandardLiquidation_whole (hwhole : l.WholeTokens)
    (hclose : params.closeFactor ≤ whole) {c : LiquidationCall} {result : LiquidationResult}
    (h : l.planStandardLiquidation s params c now = .ok result) :
    ∃ f : LiquidationFigures, f.Shown l s c now ∧ f.Reported result ∧ f.Within params c := by
  obtain ⟨collateral, debt, balance, plan, collateralPrice, debtPrice, hcollateral, hdebt, _,
    hbalance, hplan, hcollateralPrice, hdebtPrice, hseize, hbefore⟩ := planStandardLiquidation_ok h
  obtain ⟨report, hpositive, hreport, hunhealthy, _, hfactor, howes, _, hmost, hcover⟩ :=
    planLiquidation_ok hplan
  obtain ⟨factor, hvalue⟩ : ∃ n, report.healthFactor = .whole n := by
    obtain ⟨_, _, _, hwholes⟩ := solvency_whole hwhole hreport
    exact ⟨_, hwholes.healthFactor⟩
  rw [hvalue, Quantity.le_whole, decide_eq_false_iff_not, Int.not_le] at hunhealthy
  rw [hvalue] at hfactor hmost
  obtain ⟨hdebts, hshare, hmost'⟩ := percentMul_ok_iff.1 hmost
  have hle := percentRound_self_le hdebts (closeFactorAt_le hclose (.whole factor))
  have hmostNonneg := percentMul_nonneg hmost
  rw [hmost'] at hle
  have husable := hwhole.usable hcollateral hdebt hcollateralPrice hdebtPrice
    collateral.config.liquidationBonus
  have hsupply : 0 ≤ balance := by
    rw [supplyOf_eq] at hbalance
    exact supplyBalance_nonneg hbalance
  obtain ⟨m, n, htaken, hpaid, hm, hseized, hn, hrepaid⟩ :=
    SeizureTerms.seize_whole husable (by omega) hsupply hseize
  have hlimit : n ≤ min c.debtToCover plan.maxLiquidatableDebt := by omega
  have hall : min c.debtToCover plan.maxLiquidatableDebt ≤ plan.stableDebt + plan.variableDebt := by
    omega
  refine ⟨⟨factor, plan.stableDebt, plan.variableDebt, balance, n, m⟩, ?_, ?_, ?_⟩
  · exact ⟨⟨report, hreport, hvalue⟩, howes, ⟨collateral, hcollateral, hbalance⟩⟩
  · exact ⟨hbefore.trans hfactor, hpaid, htaken⟩
  · exact ⟨hunhealthy, ⟨_, hmost, hlimit, hall⟩, hn, hm, hseized⟩

/-! ## Both visits -/

section Visits

variable {m : Ledger} {user asset : Name} {r t : Reserve} {pos : Position}

theorem Visit.owed_liquidity (h : Visit now user asset l r m t pos) {change : Int}
    (hchange : t.availableLiquidity = r.availableLiquidity + change) (a : Key) :
    m.owed Reserve.availableLiquidity a =
      l.owed Reserve.availableLiquidity a + if a = asset.key then change else 0 := by
  by_cases ha : a = asset.key
  · subst ha
    rw [owed_eq h.after, owed_eq h.before, hchange, if_pos rfl]
  · unfold owed
    rw [h.elsewhere a ha, if_neg ha, Int.add_zero]

theorem Visit.owed_index (h : Visit now user asset l r m t pos) {a : Key} {updated : Reserve}
    (hr : l.reserve? a = some updated) (htime : updated.lastUpdateTimestamp = now) :
    m.owed Reserve.variableBorrowIndex a = updated.variableBorrowIndex := by
  by_cases ha : a = asset.key
  · subst ha
    rw [h.before, Option.some.injEq] at hr
    subst hr
    rw [owed_eq h.after, h.stands htime]
  · exact owed_eq ((h.elsewhere a ha).trans hr)

end Visits

theorem liquidate_moved (hl : Timely now l) (hwhole : l.WholeTokens)
    (hclose : params.closeFactor ≤ whole) {c : LiquidationCall}
    (hother : ∀ name, c.liquidator.named = .ok name → name.key ≠ c.borrower.key)
    {result : LiquidationResult} {m : Ledger}
    (h : LedgerWork.liquidate s params c now l = .ok result m) : ∃ f : LiquidationFigures,
      f.Reported result ∧ f.Shown l s c now ∧ f.Within params c ∧ f.Moved l m c now := by
  obtain ⟨hplan, repaid, seized, l₁, hrepaid, hseized, hsettle, hmove⟩ :=
    LedgerWork.liquidate_completed h
  obtain ⟨f, hshown, hreported, hwithin⟩ := planStandardLiquidation_whole hwhole hclose hplan
  rw [hreported.repaid] at hrepaid
  rw [hreported.seized] at hseized
  cases hrepaid
  cases hseized
  obtain ⟨most, _, hlimit, hall⟩ := hwithin.limit
  have hturns : Turns now (fun _ => True) l l₁ :=
    (permits_turns now _).settleDebt trivial trivial _ _ _ _ _ hsettle
  have hl₁ := hturns.timely hl
  obtain ⟨r, t, pos, hvisit, hliquidity, hpos, hsupply, left, howes, hlowered⟩ :=
    settleDebt_visit hl hwithin.repaid_nonneg hshown.debts (Int.le_trans hlimit hall) hsettle
  obtain ⟨r', t', pos', hvisit', hliquidity', hpos', hloan, hdebt, left', hholds, hlowered'⟩ :=
    moveCollateral_visit hl₁ hother (hvisit.holds hl hsupply hshown.supply) hwithin.available hmove
  have hmoney := hvisit.owed_liquidity hliquidity
  have hmoney' := hvisit'.owed_liquidity hliquidity'
  -- the collateral may be in the reserve of the debt: the second visit keeps what the first has left
  refine ⟨f, hreported, hshown, hwithin, ?_, ⟨?_, ?_⟩, ⟨left, ?_, ?_⟩, left', hholds, ?_⟩
  · intro a
    rw [hmoney', hmoney]
    by_cases hseized : a = c.collateralAsset.key
    · cases c.receiveUnderlying
      · simp [hseized]
      · simp [hseized]
        omega
    · simp [hseized]
  · by_cases hsame : c.debtAsset.key = c.collateralAsset.key
    · rw [hsame, owed_eq hvisit'.after]
      exact hpos'
    · rw [hmoney', if_neg hsame, Int.add_zero, owed_eq hvisit.after]
      exact hpos
  · rw [owed_eq hvisit'.after]
    exact hpos'
  · exact hvisit'.owes hl₁ hloan hdebt howes
  · rw [hvisit'.owed_index hvisit.after hvisit.time]
    exact hlowered
  · rw [owed_eq hvisit'.after]
    exact hlowered'

end Ledger

end MoneyMarket
