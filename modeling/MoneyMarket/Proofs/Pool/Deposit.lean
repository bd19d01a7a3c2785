import MoneyMarket.Proofs.Ledger.Standing
import MoneyMarket.Proofs.Ledger.Movements
import MoneyMarket.Proofs.Pool.Bystander
import MoneyMarket.Proofs.Pool.Completed

/-!
# Being given collateral

A deposit never takes from the collateral of the account it is for, and never adds to its debt. Its
health factor may fall all the same: the average threshold is cut to whole basis points, and may be
cut by up to one more after the deposit than before it.
-/

namespace MoneyMarket

open MoneyMarket.FixedPoint MoneyMarket.Reserve

namespace Ledger

variable {loans : Prop} {l m : Ledger}

/-! ## Names of positions -/

def Named (l : Ledger) : Prop := ∀ u a pos, l.position? u a = some pos → pos.asset.key = a

theorem Named.position (hl : Named l) (u : Key) (asset : Name) :
    (l.position u asset).asset.key = asset.key := by
  unfold Ledger.position
  cases hpos : l.position? u asset with
  | none => rfl
  | some pos => exact hl _ _ _ hpos

theorem Named.setPosition (hl : Named l) (u : Key) {a : Key} {p : Position}
    (hp : p.asset.key = a) : Named (l.setPosition u a p) := by
  intro v b pos hpos
  rw [position?_setPosition] at hpos
  split at hpos
  · rename_i h
    cases hpos
    rw [hp, h.2]
  · exact hl v b pos hpos

theorem Step.named (h : Step loans l m) (hl : Named l) : Named m := by
  cases h with
  | accrue | money | average | switchMargin => exact hl
  | @move user asset r rp hr hm =>
    have hasset : rp.2.asset = (l.position user asset).asset := by cases hm <;> rfl
    have hopen : Named (l.openPosition user asset) := hl.setPosition _ (hl.position user asset)
    exact hopen.setPosition (l := (l.openPosition user asset).setReserve asset rp.1) _
      (hasset ▸ hl.position user asset)
  | @handOver source target asset r x =>
    have htaken := hl.setPosition source.key
      (p := { l.position source asset with
        scaledBalance := (l.position source asset).scaledBalance - x })
      (hl.position source asset)
    exact htaken.setPosition _ (htaken.position target asset)
  | @credit a r hr treasury => exact hl.setPosition _ (hl.position treasury r.asset)
  | openPosition user asset => exact hl.setPosition _ (hl.position user asset)
  | switch user asset => exact hl.setPosition _ (hl.position user asset)

theorem Evolves.named (h : Evolves loans l m) (hl : Named l) : Named m := by
  cases h with
  | same | edit | list => exact hl
  | @commit n h treasury =>
    have hpaid : Steps loans n _ := Pool.creditTreasury_steps treasury n
    have hsteps : Steps loans l _ := h.trans hpaid
    exact hsteps.preserves (fun hstep hl => hstep.named hl) hl

end Ledger

namespace Pool

open MoneyMarket.Ledger MoneyMarket.LedgerWork

variable {p : Pool} {user asset : Name} {l m : Ledger}

theorem Attainable.named (h : Attainable p) : Named p.ledger := by
  apply h.induct
  · intro _ _ u a pos hpos
    cases hpos
  · intro q op hq
    exact (after_onward q op).ledger.named hq

/-! ## The treasury -/

theorem creditTreasuryIn_of_settled {treasury b : Key}
    (h : ∀ r, l.reserve? b = some r → r.accruedToTreasury = 0) :
    creditTreasuryIn treasury l b = l := by
  unfold creditTreasuryIn
  split
  · rfl
  · rename_i r hr
    rw [if_pos (h r hr)]

theorem foldl_creditTreasuryIn_of_settled {treasury : Key}
    (h : ∀ b r, l.reserve? b = some r → r.accruedToTreasury = 0) (keys : List Key) :
    keys.foldl (creditTreasuryIn treasury) l = l := by
  induction keys with
  | nil => rfl
  | cons b rest ih => rw [List.foldl_cons, creditTreasuryIn_of_settled (h b), ih]

theorem settled_creditTreasuryIn {treasury a : Key}
    (h : ∀ b r, b ≠ a → l.reserve? b = some r → r.accruedToTreasury = 0) (b : Key) (r : Reserve)
    (hr : (creditTreasuryIn treasury l a).reserve? b = some r) : r.accruedToTreasury = 0 := by
  rw [reserve?_creditTreasuryIn] at hr
  split at hr
  · obtain ⟨_, _, rfl⟩ := Option.map_eq_some_iff.1 hr
    rfl
  · exact h b r ‹_› hr

/-- Where only one reserve owes the treasury something, it is credited there or not at all. -/
theorem foldl_creditTreasuryIn {treasury a : Key}
    (h : ∀ b r, b ≠ a → l.reserve? b = some r → r.accruedToTreasury = 0) (keys : List Key) :
    keys.foldl (creditTreasuryIn treasury) l =
      if a ∈ keys then creditTreasuryIn treasury l a else l := by
  induction keys with
  | nil => simp
  | cons b rest ih =>
    rw [List.foldl_cons]
    by_cases hb : b = a
    · rw [hb, foldl_creditTreasuryIn_of_settled (settled_creditTreasuryIn h) rest,
        if_pos List.mem_cons_self]
    · rw [creditTreasuryIn_of_settled fun r hr => h b r hb hr, ih]
      simp [Ne.symm hb]

theorem creditTreasury_of_settled {treasury a : Key}
    (h : ∀ b r, b ≠ a → l.reserve? b = some r → r.accruedToTreasury = 0) :
    creditTreasury treasury l = creditTreasuryIn treasury l a := by
  unfold creditTreasury
  rw [foldl_creditTreasuryIn h]
  split
  · rfl
  · -- the reserve is not listed
    rename_i hnone
    have hnone : l.reserves.get? a = none := Entries.find?_eq_none_iff.2 hnone
    rw [creditTreasuryIn_of_settled]
    intro r hr
    rw [Ledger.reserve?, hnone] at hr
    cases hr

theorem visit_credited {now : Int} {r t : Reserve} {pos : Position}
    (h : Visit now user asset l r m t pos) (hnamed : t.asset.key = asset.key)
    (hopen : m.position? user asset = some pos) (hcredit : 0 ≤ t.accruedToTreasury) :
    ∃ s x, 0 ≤ x ∧ Visit now user asset l r (creditTreasuryIn user m asset) s
      { pos with scaledBalance := pos.scaledBalance + x } := by
  unfold creditTreasuryIn
  rw [h.after]
  dsimp only
  split
  · refine ⟨t, 0, Int.le_refl 0, ?_⟩
    rwa [Int.add_zero]
  · have hpos : m.position user t.asset = pos := by
      unfold Ledger.position
      rw [hnamed, hopen]
      rfl
    refine ⟨{ t with accruedToTreasury := 0 }, t.accruedToTreasury, hcredit, ?_⟩
    unfold modifyPosition
    rw [hnamed, hpos]
    exact (h.setPosition _).setReserve rfl h.time rfl rfl h.running.rate

/-! ## Deposits -/

theorem ne_blank {pos : Position} (h : pos.usedAsCollateral = true) : pos ≠ { asset := asset } := by
  rintro rfl
  cases h

theorem bookDeposit_fuller {now amount : Int} {first : Bool} (hl : Timely now l)
    (h : bookDeposit asset amount user now l = .ok first m) :
    ∃ r s pos, Visit now user asset l r m s pos ∧ Fuller (l.position user asset) pos ∧
      ((l.position? user asset).isSome ∨ pos.usedAsCollateral = true) := by
  obtain ⟨hfirst, r, s, x, hvisit, hx⟩ := bookDeposit_visit hl h
  have hmore : 0 ≤ x := rayDiv_nonneg hx
  refine ⟨r, s, _, hvisit, ⟨rfl, hl.supply_nonneg user asset, ?_, ?_, rfl, rfl⟩, ?_⟩
  · exact Int.le_add_of_nonneg_right hmore
  · exact fun hflag => Bool.or_eq_true_iff.2 (.inr hflag)
  · cases hpos : l.position? user asset with
    | some pos => exact .inl rfl
    | none =>
      -- nothing was there, so this is the first deposit
      right
      have hblank : (l.position user asset).scaledBalance = 0 := by
        unfold Ledger.position
        rw [hpos]
        rfl
      rw [hfirst, hblank]
      rfl

theorem fuller_credited {p q : Position} (h : Fuller p q) {x : Int} (hx : 0 ≤ x) :
    Fuller p { q with scaledBalance := q.scaledBalance + x } := by
  refine ⟨h.asset, h.nonneg, ?_, h.flag, h.debt, h.loan⟩
  exact Int.le_trans h.supply (Int.le_add_of_nonneg_right hx)

/-- After a deposit the account sees what it would have seen before with a fuller position. This
holds of the treasury, too, which is credited in the same reserve. -/
theorem deposit_sameFor (h : Attainable p) {amount : Int} {answer : Outcome}
    (hdone : (p.perform (.deposit asset amount user)).2 = .ok answer) :
    ∃ r pos income, p.ledger.reserve? asset = some r ∧
      r.normalizedIncome p.clock = .ok income ∧ 0 ≤ income ∧
      Fuller (p.ledger.position user asset) pos ∧
      SameFor p.clock user (p.ledger.setPosition user asset pos)
        (p.after (.deposit asset amount user)).ledger := by
  have htx : p.transaction? (.deposit asset amount user) =
      some ((·.answer fun _ => .done) <$> p.depositing asset amount user) := rfl
  unfold after
  rw [perform_transaction htx] at hdone ⊢
  obtain ⟨receipt, m, hw, _, hcommit⟩ := transact_done hdone
  rw [hcommit]
  have hturns := transaction_turns htx hw
  have hsound := (hturns.timely h.timely).balanced.sound
  obtain ⟨_, hdeposit, _⟩ := map_done hw
  obtain ⟨_, _, hbook, _⟩ := depositing_completed hdeposit
  obtain ⟨r, s, pos, hvisit, hfuller, hopen⟩ := bookDeposit_fuller h.timely hbook
  have hcounted : pos.scaledVariableDebt ≠ 0 → 0 < r.scaledVariableDebt := by
    rw [hfuller.debt]
    exact h.timely.counted_position hvisit.before
  refine ⟨r, ?_⟩
  show ∃ pos income, _ ∧ _ ∧ _ ∧ _ ∧
    SameFor _ _ _ (creditTreasury (.text p.params.treasury) m)
  by_cases ht : user.key = .text p.params.treasury
  · have hcredit : creditTreasury (.text p.params.treasury) m = creditTreasuryIn user m asset := by
      rw [← ht]
      apply creditTreasury_of_settled
      intro b t hb ht
      rw [hvisit.elsewhere b hb] at ht
      exact h.settled b t ht
    obtain ⟨t, x, hx, hcredited⟩ := visit_credited hvisit (hsound.key _ _ hvisit.after)
      (hvisit.opened (hopen.imp_right ne_blank)) (hsound.credit _ _ hvisit.after)
    rw [hcredit]
    exact ⟨_, t.liquidityIndex, hcredited.before, hcredited.income, hcredited.running.income,
      fuller_credited hfuller hx, hcredited.sameFor (hopen.imp_right ne_blank) hcounted⟩
  · exact ⟨pos, s.liquidityIndex, hvisit.before, hvisit.income, hvisit.running.income, hfuller,
      (hvisit.sameFor (hopen.imp_right ne_blank) hcounted).trans (creditTreasury_sameFor ht m)⟩

/-! ## Reports -/

/-- There is no less collateral and the same debt. The health factor is lower only if the average
threshold is, and then by less than a basis point of the collateral over the debt, and one. -/
def NotHurt (before after : SolvencyReport) : Prop :=
  ∃ collateral collateral' threshold threshold' debt factor factor' : Int,
    before.totalCollateralValue = .whole collateral ∧
    after.totalCollateralValue = .whole collateral' ∧
    before.totalDebtValue = .whole debt ∧ after.totalDebtValue = .whole debt ∧
    before.avgLiquidationThreshold = .whole threshold ∧
    after.avgLiquidationThreshold = .whole threshold' ∧
    before.healthFactor = .whole factor ∧ after.healthFactor = .whole factor' ∧
    collateral ≤ collateral' ∧ (threshold ≤ threshold' → factor ≤ factor') ∧
    whole * (debt * (factor - factor' - 1)) < (collateral' + whole) * wad

theorem notHurt_of_whole {cs ds : List Contribution} {debt : Int} {before after : SolvencyReport}
    (hbefore : before.Whole cs debt) (hafter : after.Whole ds debt) (hdebt : 0 ≤ debt)
    (hcs : ∀ c ∈ cs, c.Plain) (hds : ∀ c ∈ ds, c.Plain)
    (hthreshold : debt = 0 ∨ 0 ≤ average (·.liquidationThreshold) cs)
    (hworth : worthOf cs ≤ worthOf ds)
    (hweigh : weigh (·.liquidationThreshold) cs ≤ weigh (·.liquidationThreshold) ds) :
    NotHurt before after := by
  refine ⟨_, _, _, _, debt, _, _, hbefore.collateral, hafter.collateral, hbefore.totalDebt,
    hafter.totalDebt, hbefore.threshold, hafter.threshold, hbefore.healthFactor,
    hafter.healthFactor, hworth, ?_, ?_⟩
  · intro hle
    apply factor_mono hdebt
    rcases hthreshold with hzero | hnonneg
    · exact .inl hzero
    · right
      calc worthOf cs * average (·.liquidationThreshold) cs
          ≤ worthOf ds * average (·.liquidationThreshold) cs :=
            Int.mul_le_mul_of_nonneg_right hworth hnonneg
        _ ≤ worthOf ds * average (·.liquidationThreshold) ds :=
            Int.mul_le_mul_of_nonneg_left hle (worthOf_nonneg hds)
  · apply factor_fall hdebt (worthOf_nonneg hds)
    have hbelow : average (·.liquidationThreshold) cs * worthOf cs ≤
        weigh (·.liquidationThreshold) cs := average_mul_le hcs
    have habove : weigh (·.liquidationThreshold) ds ≤
        average (·.liquidationThreshold) ds * worthOf ds + worthOf ds := weigh_le hds
    rw [Int.mul_comm] at hbelow habove
    omega

/-- **Being given collateral.** A deposit leaves the account it is for with no less collateral and
the same debt. Its health factor falls at most by what cutting the average threshold to a whole
basis point takes away. There is a report after the deposit if there was one before, unless the
deposit makes collateral of an asset without a price or with a negative loan-to-value. -/
theorem deposit_notHurting (h : Reachable p) {amount : Int} {answer : Outcome}
    (hdone : (p.perform (.deposit asset amount user)).2 = .ok answer) {before : SolvencyReport}
    (hbefore : p.solvency user = .ok before) :
    (∀ after, (p.after (.deposit asset amount user)).solvency user = .ok after →
      NotHurt before after) ∧
    ∀ r, p.ledger.reserve? asset = some r →
      (0 < r.config.liquidationThreshold → 0 < p.prices.price asset ∧ 0 ≤ r.config.baseLtv) →
      ∃ after, (p.after (.deposit asset amount user)).solvency user = .ok after := by
  obtain ⟨r, pos, income, hr, hincome, hnonneg, hfuller, hsame⟩ := deposit_sameFor h.attainable hdone
  -- the report afterwards is that on the ledger of before with a fuller position
  have hreport : (p.after (.deposit asset amount user)).solvency user =
      (p.ledger.setPosition user asset pos).solvency p.surroundings user p.clock := by
    unfold solvency
    rw [clock_after_transaction rfl, surroundings_after_transaction rfl]
    exact hsame.solvency
  have hwhole' : (p.ledger.setPosition user asset pos).WholeTokens := h.whole
  rw [hreport]
  obtain ⟨cs, debt, hstands, hfigures⟩ := solvency_whole h.whole hbefore
  have hplain := hstands.plain h.whole
  obtain ⟨hltv, hthreshold⟩ := (hstands.solvency_ok_iff h.whole).1 ⟨before, hbefore⟩
  constructor
  · intro after hafter
    obtain ⟨ds, owed, hstands', hfigures'⟩ := solvency_whole hwhole' hafter
    have hplain' := hstands'.plain hwhole'
    obtain ⟨rfl, hworth, hweigh, _⟩ := hstands.fuller hr hfuller hstands'
    exact notHurt_of_whole hfigures hfigures' hplain.2 hplain.1 hplain'.1 hthreshold hworth hweigh
  · intro r' hr' hpriced
    rw [hr, Option.some.injEq] at hr'
    subst hr'
    have hname : pos.asset.key = asset.key := by
      rw [hfuller.asset]
      exact h.attainable.named.position user asset
    have hprice : 0 < r.config.liquidationThreshold → 0 < p.surroundings.prices.price pos.asset := by
      intro hpos
      rw [hname]
      exact (hpriced hpos).1
    obtain ⟨ds, hstands'⟩ := hstands.exists_fuller hr hfuller (exists_pledged hprice hincome hnonneg)
    have hplain' := hstands'.plain hwhole'
    obtain ⟨_, _, hweigh, hweighLtv⟩ := hstands.fuller hr hfuller hstands'
    have hweighLtv := hweighLtv fun hpos => (hpriced hpos).2
    rw [hstands'.solvency_ok_iff hwhole', average_nonneg_iff hplain'.1, average_nonneg_iff hplain'.1]
    rw [average_nonneg_iff hplain.1] at hltv hthreshold
    exact ⟨by omega, by omega⟩

/-- A debt whose price has risen until the health factor is exactly one. -/
def atTheLimit : List Operation :=
  [.initReserve .usdc (.kinked .stableTwo),
    .initReserve .dai (.kinked .stableTwo),
    .initReserve .weth (.kinked .weth),
    .setPrice (.text "USDC") (.whole wad),
    .setPrice (.text "DAI") (.whole wad),
    .setPrice (.text "WETH") (.whole (1000 * wad)),
    .deposit (.text "WETH") (1000 * wad) (.text "carol"),
    .deposit (.text "USDC") 10000000000 (.text "ana"),
    .borrow (.text "WETH") (8 * wad) 2 (.text "ana"),
    .setPrice (.text "WETH") (.whole 1062500000000000000000)]

/-- The average threshold falls by a basis point, and the health factor by no more than that. -/
theorem notHurt_at_the_limit :
    let p := run {} atTheLimit
    let op := Operation.deposit (.text "DAI") wad (.text "ana")
    ∃ before after, p.solvency (.text "ana") = .ok before ∧
      (p.after op).solvency (.text "ana") = .ok after ∧
      before.avgLiquidationThreshold = .whole 8500 ∧
      after.avgLiquidationThreshold = .whole 8499 ∧ NotHurt before after := by
  intro p op
  have hreachable : Reachable p := ⟨⟨{}, 0, atTheLimit, rfl⟩, by decide +kernel⟩
  have hbefore : ∃ before, p.solvency (.text "ana") = .ok before ∧
    before.avgLiquidationThreshold = .whole 8500 := by decide +kernel
  have hafter : ∃ after, (p.after op).solvency (.text "ana") = .ok after ∧
    after.avgLiquidationThreshold = .whole 8499 := by decide +kernel
  have hdone : (p.perform op).2.toOption.isSome := by decide +kernel
  obtain ⟨before, hbefore, hthreshold⟩ := hbefore
  obtain ⟨after, hafter, hthreshold'⟩ := hafter
  refine ⟨before, after, hbefore, hafter, hthreshold, hthreshold', ?_⟩
  cases hanswer : (p.perform op).2 with
  | error f => simp [hanswer, Except.toOption] at hdone
  | ok answer =>
    exact (deposit_notHurting hreachable hanswer hbefore).1 after hafter

/-- A token of which a base unit is more than any amount of another is worth. -/
def oversized : ReserveConfig := { ReserveConfig.dai with symbol := .text "Z", decimals := -300 }

/-- Debt against collateral, and two tokens of which none is supplied yet: one without a price, and
one that counts in fractions of its unit. -/
def besideOddTokens : List Operation :=
  [.initReserve .dai (.kinked .stableTwo),
    .initReserve .weth (.kinked .weth),
    .initReserve .usdc (.kinked .stableTwo),
    .initReserve oversized (.kinked .stableTwo),
    .setPrice (.text "DAI") (.whole wad),
    .setPrice (.text "WETH") (.whole wad),
    .setPrice (.text "Z") (.whole wad),
    .deposit (.text "WETH") 10000 (.text "carol"),
    .deposit (.text "DAI") 1000 (.text "ana"),
    .borrow (.text "WETH") 700 2 (.text "ana")]

/-- A deposit by anyone can lower the health factor of the account it is for, and have it liquidated.
A first deposit of a token without a price leaves no report on the account; one of a token with a
negative number of decimals can leave a health factor that is not even a number. -/
theorem deposit_can_hurt :
    (let p := run {} atTheLimit
      let op := Operation.deposit (.text "DAI") wad (.text "ana")
      let call := Operation.liquidate {
        collateralAsset := .text "USDC", debtAsset := .text "WETH", borrower := .text "ana"
        debtToCover := wad, liquidator := .text "dan" }
      Reachable p ∧ (p.perform op).2.toOption.isSome ∧
        p.healthFactor? (.text "ana") = some (.whole wad) ∧
        (p.after op).healthFactor? (.text "ana") = some (.whole 999982341176470588) ∧
        (p.perform call).2.toOption.isNone ∧ ((p.after op).perform call).2.toOption.isSome) ∧
    let p := run {} besideOddTokens
    let unpriced := Operation.deposit (.text "USDC") 1000000 (.text "ana")
    let fractional := Operation.deposit (.text "Z") wad (.text "ana")
    Attainable p ∧ p.healthFactor? (.text "ana") = some (.whole 1142857142857142857) ∧
      (p.perform unpriced).2.toOption.isSome ∧
      (p.after unpriced).healthFactor? (.text "ana") = none ∧
      (p.perform fractional).2.toOption.isSome ∧
      ((p.after fractional).healthFactor? (.text "ana")).any
        (Quantity.le (.whole 1142857142857142857)) = false ∧
      ((p.after fractional).healthFactor? (.text "ana")).isSome := by
  refine ⟨⟨⟨⟨{}, 0, atTheLimit, rfl⟩, ?_⟩, ?_, ?_, ?_, ?_, ?_⟩,
    ⟨{}, 0, besideOddTokens, rfl⟩, ?_, ?_, ?_, ?_, ?_, ?_⟩ <;> decide +kernel

end Pool

end MoneyMarket
