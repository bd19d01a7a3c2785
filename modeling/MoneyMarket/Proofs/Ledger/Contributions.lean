import MoneyMarket.Liquidation.Margin
import MoneyMarket.Liquidation.Standard
import MoneyMarket.Proofs.Ledger.Standing
import MoneyMarket.Proofs.Reserve.Round

/-!
# What a report lists as collateral

A report lists one contribution for each position that counts as collateral, and one for the margin
collateral of those who opted in. A liquidation asks other questions: whether there is anything to
see of a supply, and how much margin collateral there is. Both come to the same as long as the shown
supply is not below the stored one.
-/

namespace MoneyMarket

open MoneyMarket.FixedPoint MoneyMarket.Interest MoneyMarket.Reserve

theorem Reserve.Running.supplyBalance_pos_iff {r : Reserve} {pos : Position} {now : Int}
    (hr : Running now r) (hincome : ray ≤ r.liquidityIndex) (hsupply : 0 ≤ pos.scaledBalance) :
    ∃ balance, pos.supplyBalance r now = .ok balance ∧ (0 < balance ↔ 0 < pos.scaledBalance) := by
  unfold Position.supplyBalance
  split
  · rename_i hnone
    exact ⟨0, rfl, by rw [hnone]⟩
  · have hindex : ray ≤ r.nextLiquidityIndex now := by
      refine Int.le_trans hincome ?_
      rw [nextLiquidityIndex, mulRound_comm]
      exact le_rayRound hr.income (ray_le_linearAfter hr.rate hr.elapsed_nonneg)
    rw [hr.normalizedIncome_eq, ok_bind]
    refine ⟨_, mulChecked_ok _ _ hsupply (nonneg_of_ray_le hindex), ?_⟩
    have hshown := le_rayRound hsupply hindex
    omega

namespace Ledger

variable {l : Ledger} {s : Surroundings} {user : Key} {now : Int} {cs : List Contribution}

/-! ## Positions -/

/-- The position is collateral, and this is what it contributes. -/
structure Contributes (l : Ledger) (now : Int) (e : Key × Position) (c : Contribution) : Prop where
  counts : ∃ r, l.reserve? e.1 = some r ∧ countsAsCollateral r e.2 = true ∧
    e.2.supplyBalance r now = .ok c.amount
  source : c.source = e.2.asset

theorem assess_contributes {r : Reserve} {pos : Position} {debt : Quantity}
    (h : assess s r pos now = .ok (cs, debt)) :
    if countsAsCollateral r pos then
      ∃ c, cs = [c] ∧ c.source = pos.asset ∧ pos.supplyBalance r now = .ok c.amount
    else cs = [] := by
  obtain ⟨hbacks, -⟩ := assess_iff.1 h
  split at hbacks
  · obtain ⟨price, balance, value, -, hbalance, -, rfl⟩ := hbacks
    rw [if_pos ‹_›]
    exact ⟨_, rfl, rfl, hbalance⟩
  · rwa [if_neg ‹_›]

/-- The contributions are those of the positions, no more and no less. -/
structure Listed (l : Ledger) (now : Int) (es : List (Key × Position)) (cs : List Contribution) :
    Prop where
  made : ∀ c ∈ cs, ∃ e ∈ es, l.Contributes now e c
  given : ∀ e ∈ es, ∀ r, l.reserve? e.1 = some r → countsAsCollateral r e.2 = true →
    ∃ c ∈ cs, l.Contributes now e c

theorem Listed.next {es : List (Key × Position)} {sofar next : List Contribution × Quantity}
    {e : Key × Position} (hsofar : l.Listed now es sofar.1)
    (h : l.assessNext s now sofar e = .ok next) : l.Listed now (es ++ [e]) next.1 := by
  unfold assessNext at h
  cases hr : l.reserve? e.1 with
  | none =>
    rw [hr] at h
    cases h
  | some r =>
    rw [hr] at h
    simp only [bind_ok_iff, pure_ok_iff, Prod.exists] at h
    obtain ⟨mine, debt, hassess, _, -, rfl⟩ := h
    have hmine := assess_contributes hassess
    constructor
    · intro c hc
      rcases List.mem_append.1 hc with hc | hc
      · obtain ⟨e', he', hcontributes⟩ := hsofar.made c hc
        exact ⟨e', List.mem_append_left _ he', hcontributes⟩
      · split at hmine
        · rename_i hcounts
          obtain ⟨d, rfl, hsource, hbalance⟩ := hmine
          rw [List.mem_singleton] at hc
          subst hc
          exact ⟨e, by simp, ⟨r, hr, hcounts, hbalance⟩, hsource⟩
        · subst hmine
          cases hc
    · intro e' he' r' hr' hcounts
      rcases List.mem_append.1 he' with he' | he'
      · obtain ⟨c, hc, hcontributes⟩ := hsofar.given e' he' r' hr' hcounts
        exact ⟨c, List.mem_append_left _ hc, hcontributes⟩
      · rw [List.mem_singleton] at he'
        subst he'
        obtain rfl : r = r' := Option.some.inj (hr.symm.trans hr')
        rw [if_pos hcounts] at hmine
        obtain ⟨c, rfl, hsource, hbalance⟩ := hmine
        exact ⟨c, by simp, ⟨r, hr, hcounts, hbalance⟩, hsource⟩

theorem Listed.foldlM {es rest : List (Key × Position)}
    {sofar result : List Contribution × Quantity} (hsofar : l.Listed now es sofar.1) (h : rest.foldlM (l.assessNext s now) sofar = .ok result) :
    l.Listed now (es ++ rest) result.1 := by
  induction rest generalizing es sofar with
  | nil =>
    rw [List.foldlM_nil, pure_ok_iff] at h
    rw [← h, List.append_nil]
    exact hsofar
  | cons e rest ih =>
    rw [List.foldlM_cons, bind_ok_iff] at h
    obtain ⟨next, hnext, hrest⟩ := h
    have hall := ih (hsofar.next hnext) hrest
    rwa [List.append_assoc] at hall

theorem assessAll_listed {debt : Quantity} (h : l.assessAll s user now = .ok (cs, debt)) :
    l.Listed now (l.userPositions user).entries cs :=
  have hnothing : l.Listed now [] (([], .whole 0) : List Contribution × Quantity).1 :=
    ⟨List.forall_mem_nil _, List.forall_mem_nil _⟩
  hnothing.foldlM h

/-! ## Margin collateral -/

theorem availableMarginCollateral_ok (l : Ledger) (s : Surroundings) (user : Key) :
    l.availableMarginCollateral s user (.text s.margin.referenceAsset) =
      .ok (.whole (if l.usesMargin user then (s.feed.snapshot user).collateralValue else 0)) := by
  unfold availableMarginCollateral
  cases l.usesMargin user with
  | false => rfl
  | true => exact if_pos (Or.inr rfl)

theorem marginContribution_ok (h : l.marginContribution s user = .ok cs) :
    (0 < (s.feed.snapshot user).collateralValue ∧
      ∃ c, cs = [c] ∧ c.source = marginSource ∧ c.amount = (s.feed.snapshot user).collateralValue) ∨
    (¬ 0 < (s.feed.snapshot user).collateralValue ∧ cs = []) := by
  unfold marginContribution at h
  dsimp only at h
  split at h
  · rename_i hamount
    obtain ⟨value, -, h⟩ := bind_ok_iff.1 h
    exact .inl ⟨hamount, _, (pure_ok_iff.1 h).symm, rfl, rfl⟩
  · rename_i hamount
    exact .inr ⟨hamount, (pure_ok_iff.1 h).symm⟩

/-! ## Reports -/

theorem of_collateral {debt : Quantity} {snapshot : Option MarginSnapshot} {report : SolvencyReport}
    (h : SolvencyReport.of cs debt snapshot = .ok report) : report.collateral = cs := by
  simp only [SolvencyReport.of, bind_ok_iff, pure_ok_iff] at h
  obtain ⟨_, _, _, _, _, _, _, _, _, _, rfl⟩ := h
  rfl

/-- A report lists what the positions contribute, and then the margin collateral if there is any. -/
theorem solvency_collateral {report : SolvencyReport} (h : l.solvency s user now = .ok report) :
    ∃ supplied margin available, report.collateral = supplied ++ margin ∧
      l.Listed now (l.userPositions user).entries supplied ∧
      l.availableMarginCollateral s user (.text s.margin.referenceAsset) = .ok (.whole available) ∧
      ((0 < available ∧ ∃ c, margin = [c] ∧ c.source = marginSource ∧ c.amount = available) ∨
        (¬ 0 < available ∧ margin = [])) := by
  simp only [solvency, solvencyUsing, bind_ok_iff, Prod.exists] at h
  obtain ⟨supplied, debt, hassess, h⟩ := h
  have havailable := availableMarginCollateral_ok l s user
  split at h
  · rename_i huses
    obtain ⟨margin, hmargin, hreport⟩ := bind_ok_iff.1 h
    rw [huses, if_pos rfl] at havailable
    exact ⟨supplied, margin, _, of_collateral hreport, assessAll_listed hassess, havailable,
      marginContribution_ok hmargin⟩
  · rename_i huses
    rw [if_neg huses] at havailable
    exact ⟨supplied, [], 0, by rw [of_collateral h, List.append_nil], assessAll_listed hassess,
      havailable, .inr ⟨Int.lt_irrefl 0, rfl⟩⟩

end Ledger

end MoneyMarket
