import MoneyMarket.Reserve.Accrual
import MoneyMarket.Reserve.Balance
import MoneyMarket.Proofs.FixedPoint

/-!
# What bookings do to a reserve

An accrual changes indices, rates, times and the share of the treasury, and nothing else. A
booking in a position changes one of its three amounts, and the total of the reserve with it.
Every later fact about bookings is read off these two relations.
-/

namespace MoneyMarket

open MoneyMarket.FixedPoint

/-- A stable debt: what is owed since a time, at a yearly rate. -/
structure StableLoan where
  principal : Int := 0
  rate : Int := 0
  since : Int := 0

def Reserve.loan (r : Reserve) : StableLoan :=
  ⟨r.principalStableDebt, r.averageStableRate, r.stableDebtTimestamp⟩

def Reserve.withLoan (r : Reserve) (x : StableLoan) : Reserve :=
  { r with
    principalStableDebt := x.principal
    averageStableRate := x.rate
    stableDebtTimestamp := x.since }

def Position.loan (p : Position) : StableLoan :=
  ⟨p.principalStableDebt, p.stableRate, p.stableTimestamp⟩

def Position.withLoan (p : Position) (x : StableLoan) : Position :=
  { p with
    principalStableDebt := x.principal
    stableRate := x.rate
    stableTimestamp := x.since }

namespace Reserve

/-! ## Accrual -/

/-- `s` is `r` after an accrual, as far as it got. What the treasury is credited is added to the
total supply, too. -/
structure Accrued (r s : Reserve) : Prop where
  asset : s.asset = r.asset
  config : s.config = r.config
  strategy : s.strategy = r.strategy
  flags : (s.active, s.frozen, s.paused) = (r.active, r.frozen, r.paused)
  loan : s.loan = r.loan
  scaledVariableDebt : s.scaledVariableDebt = r.scaledVariableDebt
  supply : s.scaledTotalSupply - s.accruedToTreasury = r.scaledTotalSupply - r.accruedToTreasury
  credit : r.accruedToTreasury ≤ s.accruedToTreasury
  availableLiquidity : s.availableLiquidity = r.availableLiquidity

variable {r s t : Reserve} {now : Int}

theorem Accrued.refl (r : Reserve) : Accrued r r := by
  constructor <;> rfl

theorem Accrued.trans (h : Accrued r s) (h' : Accrued s t) : Accrued r t where
  asset := h'.asset.trans h.asset
  config := h'.config.trans h.config
  strategy := h'.strategy.trans h.strategy
  flags := h'.flags.trans h.flags
  loan := h'.loan.trans h.loan
  scaledVariableDebt := h'.scaledVariableDebt.trans h.scaledVariableDebt
  supply := h'.supply.trans h.supply
  credit := Int.le_trans h.credit h'.credit
  availableLiquidity := h'.availableLiquidity.trans h.availableLiquidity

theorem growLiquidityIndex_accrued (h : growLiquidityIndex now r = .ok s) : Accrued r s := by
  unfold growLiquidityIndex at h
  split at h
  · simp only [bind_ok_iff, pure_ok_iff] at h
    obtain ⟨_, _, _, _, rfl⟩ := h
    exact ⟨rfl, rfl, rfl, rfl, rfl, rfl, rfl, Int.le_refl _, rfl⟩
  · rw [← pure_ok_iff.1 h]
    exact .refl r

theorem growDebtIndex_accrued (h : growDebtIndex now r = .ok s) : Accrued r s := by
  unfold growDebtIndex at h
  split at h
  · simp only [bind_ok_iff, pure_ok_iff] at h
    obtain ⟨_, _, _, _, rfl⟩ := h
    exact ⟨rfl, rfl, rfl, rfl, rfl, rfl, rfl, Int.le_refl _, rfl⟩
  · rw [← pure_ok_iff.1 h]
    exact .refl r

theorem creditTreasury_accrued {index : Int} (h : creditTreasury index now r = .ok s) :
    Accrued r s := by
  unfold creditTreasury at h
  split at h
  · simp only [bind_ok_iff] at h
    obtain ⟨_, _, share, _, h⟩ := h
    split at h
    · simp only [bind_ok_iff, pure_ok_iff] at h
      obtain ⟨scaled, hs, rfl⟩ := h
      have := rayDiv_nonneg hs
      exact ⟨rfl, rfl, rfl, rfl, rfl, rfl, by simp only; omega, by simp only; omega, rfl⟩
    · rw [← pure_ok_iff.1 h]
      exact .refl r
  · rw [← pure_ok_iff.1 h]
    exact .refl r

theorem deriveRates_accrued (h : deriveRates now r = .ok s) : Accrued r s := by
  simp only [deriveRates, bind_ok_iff, pure_ok_iff] at h
  obtain ⟨_, _, rfl⟩ := h
  exact ⟨rfl, rfl, rfl, rfl, rfl, rfl, rfl, Int.le_refl _, rfl⟩

theorem accrualStages_accrued (r : Reserve) (now : Int) :
    Accrued r (Stage.advance (r.accrualStages now) r).state := by
  refine Stage.advance_preserves ?_ (Accrued.refl r)
  intro stage hstage s t ht hs
  simp only [accrualStages, List.mem_cons, List.not_mem_nil, or_false] at hstage
  rcases hstage with rfl | rfl | rfl | rfl | rfl | rfl
  · unfold requireNotBehind at ht
    split at ht
    · cases ht
    · cases ht
      exact hs
  · exact hs.trans (growLiquidityIndex_accrued ht)
  · exact hs.trans (growDebtIndex_accrued ht)
  · exact hs.trans (creditTreasury_accrued ht)
  · exact hs.trans (deriveRates_accrued ht)
  · cases ht
    exact hs.trans ⟨rfl, rfl, rfl, rfl, rfl, rfl, rfl, Int.le_refl _, rfl⟩

theorem accrue_accrued (h : r.accrue now = .ok s) : Accrued r s := by
  have hs := accrualStages_accrued r now
  rw [accrue, ← Stage.toExcept_advance, Progress.toExcept] at h
  split at h
  · cases h
    exact hs
  · cases h

theorem requireNotBehind_ok (h : requireNotBehind now r = .ok s) :
    s = r ∧ r.lastUpdateTimestamp ≤ now := by
  unfold requireNotBehind at h
  split at h
  · contradiction
  · cases h
    exact ⟨rfl, Int.not_lt.1 ‹_›⟩

theorem accrue_stages (h : r.accrue now = .ok s) : ∃ r₁ r₂ r₃ r₄,
    r.lastUpdateTimestamp ≤ now ∧ growLiquidityIndex now r = .ok r₁ ∧
      growDebtIndex now r₁ = .ok r₂ ∧ creditTreasury r.variableBorrowIndex now r₂ = .ok r₃ ∧
      deriveRates now r₃ = .ok r₄ ∧ s = { r₄ with lastUpdateTimestamp := now } := by
  unfold accrue accrualStages at h
  simp only [Stage.perform_cons_ok] at h
  obtain ⟨_, h₀, r₁, h₁, r₂, h₂, r₃, h₃, r₄, h₄, _, h₅, h₆⟩ := h
  obtain ⟨rfl, hbehind⟩ := requireNotBehind_ok h₀
  cases h₅
  cases h₆
  exact ⟨r₁, r₂, r₃, r₄, hbehind, h₁, h₂, h₃, h₄, rfl⟩

/-! ## Positions -/

/-- What a booking makes of a reserve and a position in it. Stable debt changes only where `loans`
says so. -/
inductive Moved (loans : Prop) (r : Reserve) (p : Position) : WithPosition → Prop
  | nothing : Moved loans r p (r, p)
  | supplied (x : Int) (hx : 0 ≤ x) : Moved loans r p
      ({ r with scaledTotalSupply := r.scaledTotalSupply + x },
        { p with scaledBalance := p.scaledBalance + x })
  | withdrawn (x : Int) (hx : 0 ≤ x) (hp : x ≤ p.scaledBalance) : Moved loans r p
      ({ r with scaledTotalSupply := max (r.scaledTotalSupply - x) 0 },
        { p with scaledBalance := p.scaledBalance - x })
  | borrowed (x : Int) (hx : 0 ≤ x) : Moved loans r p
      ({ r with scaledVariableDebt := r.scaledVariableDebt + x },
        { p with scaledVariableDebt := p.scaledVariableDebt + x })
  | repaid (x : Int) (hx : 0 ≤ x) (hp : x ≤ p.scaledVariableDebt) : Moved loans r p
      ({ r with scaledVariableDebt := max (r.scaledVariableDebt - x) 0 },
        { p with scaledVariableDebt := p.scaledVariableDebt - x })
  | lent (h : loans) (y : StableLoan) (hy : 0 ≤ y.principal) : Moved loans r p (r, p.withLoan y)
  | averaged (h : loans) (x y : StableLoan) (hx : 0 ≤ x.principal) (hy : 0 ≤ y.principal) :
      Moved loans r p (r.withLoan x, p.withLoan y)

variable {p q : Position} {amount : Int} {loans : Prop}

theorem scaledShare_bounds {stored index x : Int} (h : scaledShare stored index amount = .ok x) :
    0 ≤ x ∧ x ≤ stored := by
  simp only [scaledShare, bind_ok_iff, rayMul_ok_iff] at h
  obtain ⟨_, ⟨hstored, _, _⟩, h⟩ := h
  split at h
  · cases h
    omega
  · simp only [bind_ok_iff, pure_ok_iff] at h
    obtain ⟨y, hy, rfl⟩ := h
    have := rayDiv_nonneg hy
    omega

theorem mintSupply_moved {rp : WithPosition} (h : r.mintSupply p amount = .ok rp) :
    Moved loans r p rp := by
  simp only [mintSupply, bind_ok_iff, pure_ok_iff] at h
  obtain ⟨x, hx, rfl⟩ := h
  exact .supplied x (rayDiv_nonneg hx)

theorem burnSupply_moved {rp : WithPosition} (h : r.burnSupply p amount = .ok rp) :
    Moved loans r p rp := by
  simp only [burnSupply, bind_ok_iff, pure_ok_iff] at h
  obtain ⟨x, hx, rfl⟩ := h
  have hb := scaledShare_bounds hx
  exact .withdrawn x hb.1 hb.2

theorem mintVariableDebt_moved {rp : WithPosition} (h : r.mintVariableDebt p amount = .ok rp) :
    Moved loans r p rp := by
  simp only [mintVariableDebt, bind_ok_iff, pure_ok_iff] at h
  obtain ⟨x, hx, rfl⟩ := h
  exact .borrowed x (rayDiv_nonneg hx)

theorem burnVariableDebt_moved {rp : WithPosition} (h : r.burnVariableDebt p amount = .ok rp) :
    Moved loans r p rp := by
  simp only [burnVariableDebt, bind_ok_iff, pure_ok_iff] at h
  obtain ⟨x, hx, rfl⟩ := h
  have hb := scaledShare_bounds hx
  exact .repaid x hb.1 hb.2

/-! ## Stable debt -/

/-- What a debt weighs in an average of rates. -/
def weight (rate amount : Int) : Int := mulRound ray halfRay rate (amount * raysPerWad)

theorem weight_nonneg {rate : Int} (hrate : 0 ≤ rate) (ha : 0 ≤ amount) : 0 ≤ weight rate amount :=
  rayRound_nonneg hrate (Int.mul_nonneg ha (by decide))

theorem blendedRate_ok_iff {rate total other next x : Int} :
    blendedRate rate total other amount next = .ok x ↔
      0 ≤ rate ∧ 0 ≤ total ∧ 0 ≤ other ∧ 0 ≤ amount ∧ 0 < next ∧
        divRound ray (weight rate total + weight other amount) (next * raysPerWad) = x := by
  have hunit : 0 < raysPerWad := by decide
  simp only [blendedRate, bind_ok_iff, wadToRay_ok_iff, rayMul_ok_iff, rayDiv_ok_iff]
  constructor
  · rintro ⟨_, ⟨htotal, rfl⟩, _, ⟨hrate, -, rfl⟩, _, ⟨hamount, rfl⟩, _, ⟨hother, -, rfl⟩, _,
      ⟨-, rfl⟩, -, hnext, rfl⟩
    exact ⟨hrate, htotal, hother, hamount, Int.pos_of_mul_pos_left hnext hunit, rfl⟩
  · rintro ⟨hrate, htotal, hother, hamount, hnext, rfl⟩
    have htotal' := Int.mul_nonneg htotal (Int.le_of_lt hunit)
    have hamount' := Int.mul_nonneg hamount (Int.le_of_lt hunit)
    exact ⟨_, ⟨htotal, rfl⟩, _, ⟨hrate, htotal', rfl⟩, _, ⟨hamount, rfl⟩, _,
      ⟨hother, hamount', rfl⟩, _, ⟨Int.le_of_lt hnext, rfl⟩,
      Int.add_nonneg (weight_nonneg hrate htotal) (weight_nonneg hother hamount),
      Int.mul_pos hnext hunit, rfl⟩

theorem blendedRate_ok {rate total other next x : Int}
    (h : blendedRate rate total other amount next = .ok x) : 0 < next ∧ 0 ≤ x := by
  obtain ⟨hrate, htotal, hother, ha, hnext, rfl⟩ := blendedRate_ok_iff.1 h
  have hsum := Int.add_nonneg (weight_nonneg hrate htotal) (weight_nonneg hother ha)
  have hunit := Int.mul_nonneg (Int.le_of_lt hnext) (show 0 ≤ raysPerWad by decide)
  exact ⟨hnext, divRound_nonneg (Int.le_of_lt ray_pos) hsum hunit⟩

theorem stableAfterAdding_ok_iff {total rate : Int} {x : Int × Int} :
    r.stableAfterAdding total amount rate = .ok x ↔
      total + amount = 0 ∧ (total + amount, 0) = x ∨
        0 ≤ r.averageStableRate ∧ 0 ≤ total ∧ 0 ≤ rate ∧ 0 ≤ amount ∧ 0 < total + amount ∧
          (total + amount, divRound ray (weight r.averageStableRate total + weight rate amount)
            ((total + amount) * raysPerWad)) = x := by
  unfold stableAfterAdding
  dsimp only
  split
  · rename_i hnone
    rw [pure_ok_iff]
    exact ⟨fun h => .inl ⟨hnone, h⟩, fun h => h.elim And.right fun h => absurd hnone (by omega)⟩
  · rename_i hsome
    simp only [bind_ok_iff, blendedRate_ok_iff, pure_ok_iff, hsome, false_and, false_or]
    constructor
    · rintro ⟨_, ⟨haverage, htotal, hrate, hamount, hnext, rfl⟩, rfl⟩
      exact ⟨haverage, htotal, hrate, hamount, hnext, rfl⟩
    · rintro ⟨haverage, htotal, hrate, hamount, hnext, rfl⟩
      exact ⟨_, ⟨haverage, htotal, hrate, hamount, hnext, rfl⟩, rfl⟩

theorem stableAfterAdding_ok {total rate : Int} {x : Int × Int}
    (h : r.stableAfterAdding total amount rate = .ok x) :
    x.1 = total + amount ∧ 0 ≤ x.1 := by
  rcases stableAfterAdding_ok_iff.1 h with ⟨hnone, rfl⟩ | ⟨-, -, -, -, hnext, rfl⟩
  · exact ⟨rfl, Int.le_of_eq hnone.symm⟩
  · exact ⟨rfl, Int.le_of_lt hnext⟩

/-- What is left of a stable debt of which an amount is removed, and at which average. All of it is gone
once it weighs no more than the amount. -/
def remaining (average total rate amount : Int) : Int × Int :=
  if weight average total ≤ weight rate amount then (0, 0)
  else (total - amount,
    divRound ray (weight average total - weight rate amount) ((total - amount) * raysPerWad))

theorem stableAfterRemoving_ok_iff {total rate : Int} {x : Int × Int} :
    r.stableAfterRemoving total amount rate = .ok x ↔
      total ≤ amount ∧ (0, 0) = x ∨
        amount < total ∧ 0 ≤ r.averageStableRate ∧ 0 ≤ rate ∧ 0 ≤ amount ∧
          remaining r.averageStableRate total rate amount = x := by
  have hunit : 0 < raysPerWad := by decide
  unfold stableAfterRemoving
  split
  · rename_i hall
    rw [pure_ok_iff]
    exact ⟨fun h => .inl ⟨hall, h⟩, fun h => h.elim And.right fun h => absurd h.1 (by omega)⟩
  · rename_i hpart
    have hleft : 0 < total - amount := by omega
    -- Once both sides are weighed, nothing can fail.
    have hquotient (held removed : Int) : (if held ≤ removed then return (0, 0)
        else return (total - amount, ← rayDiv (held - removed) (← wadToRay (total - amount))) :
          Except Fault (Int × Int)) =
        .ok (if held ≤ removed then (0, 0)
          else (total - amount, divRound ray (held - removed) ((total - amount) * raysPerWad))) := by
      split
      · rfl
      · rw [wadToRay_ok (Int.le_of_lt hleft), ok_bind, rayDiv,
          divChecked_ok _ _ (by omega) (Int.mul_pos hleft hunit)]
        rfl
    simp only [bind_ok_iff, wadToRay_ok_iff, rayMul_ok_iff, hquotient, Except.ok.injEq]
    constructor
    · rintro ⟨_, ⟨_, rfl⟩, _, ⟨haverage, _, rfl⟩, _, ⟨hamount, rfl⟩, _, ⟨hrate, _, rfl⟩, rfl⟩
      exact .inr ⟨by omega, haverage, hrate, hamount, rfl⟩
    · rintro (⟨hall, _⟩ | ⟨_, haverage, hrate, hamount, rfl⟩)
      · omega
      · have htotal : 0 ≤ total := by omega
        exact ⟨_, ⟨htotal, rfl⟩, _, ⟨haverage, Int.mul_nonneg htotal (Int.le_of_lt hunit), rfl⟩,
          _, ⟨hamount, rfl⟩, _, ⟨hrate, Int.mul_nonneg hamount (Int.le_of_lt hunit), rfl⟩, rfl⟩

theorem stableAfterRemoving_ok {total rate : Int} {x : Int × Int}
    (h : r.stableAfterRemoving total amount rate = .ok x) :
    (x.1 = 0 ∧ (total ≤ amount ∨ weight r.averageStableRate total ≤ weight rate amount)) ∨
      (x.1 = total - amount ∧ amount < total ∧
        weight rate amount < weight r.averageStableRate total) := by
  rcases stableAfterRemoving_ok_iff.1 h with ⟨hall, rfl⟩ | ⟨hpart, -, -, -, rfl⟩
  · exact .inl ⟨rfl, .inl hall⟩
  · unfold remaining
    split
    · exact .inl ⟨rfl, .inr ‹_›⟩
    · exact .inr ⟨rfl, hpart, Int.not_le.1 ‹_›⟩

theorem updateStableRate_ok_iff {change rate : Int} :
    r.updateStableRate change rate now = .ok s ↔
      ∃ total x, 0 ≤ rate ∧ r.stableDebt now = .ok total ∧
        (if 0 ≤ change then r.stableAfterAdding total change rate
          else r.stableAfterRemoving total (-change) rate) = .ok x ∧
        s = r.withLoan ⟨x.1, x.2, now⟩ := by
  unfold updateStableRate
  dsimp only
  rw [guard_ok_iff, Int.not_lt]
  by_cases hchange : 0 ≤ change <;>
  · simp only [hchange, if_true, if_false, bind_ok_iff, pure_ok_iff]
    constructor
    · rintro ⟨hrate, total, htotal, x, hx, rfl⟩
      exact ⟨total, x, hrate, htotal, hx, rfl⟩
    · rintro ⟨total, x, hrate, htotal, hx, rfl⟩
      exact ⟨hrate, total, htotal, x, hx, rfl⟩

theorem updateStableRate_principal {change rate : Int}
    (h : r.updateStableRate change rate now = .ok s) : 0 ≤ s.principalStableDebt := by
  obtain ⟨total, x, _, _, hx, rfl⟩ := updateStableRate_ok_iff.1 h
  show 0 ≤ x.1
  split at hx
  · exact (stableAfterAdding_ok hx).2
  · rcases stableAfterRemoving_ok hx with h | h <;> omega

theorem lendStable_ok {rate : Int} {rp : WithPosition}
    (h : lendStable amount rate now (r, p) = .ok rp) :
    ∃ current x, p.stableDebt now = .ok current ∧ 0 < current + amount ∧
      rp = (r, p.withLoan ⟨current + amount, x, now⟩) := by
  simp only [lendStable, bind_ok_iff, pure_ok_iff] at h
  obtain ⟨current, hc, x, hx, rfl⟩ := h
  exact ⟨current, x, hc, (blendedRate_ok hx).1, rfl⟩

theorem averageInStable_ok {rate : Int} {rp : WithPosition}
    (h : averageInStable amount rate now (r, p) = .ok rp) :
    ∃ s, r.updateStableRate amount rate now = .ok s ∧ rp = (s, p) := by
  simp only [averageInStable, bind_ok_iff, pure_ok_iff] at h
  obtain ⟨s, hs, rfl⟩ := h
  exact ⟨s, hs, rfl⟩

theorem burnStableDebt_ok {rp : WithPosition} (h : r.burnStableDebt p amount now = .ok rp) :
    ∃ current s y, p.stableDebt now = .ok current ∧
      r.updateStableRate (-min amount current) p.stableRate now = .ok s ∧
      rp = (s, p.withLoan y) ∧ y.principal = current - min amount current ∧
      (y.principal = 0 ∨ y.since = now) := by
  simp only [burnStableDebt, bind_ok_iff, pure_ok_iff] at h
  obtain ⟨current, hc, s, hs, rfl⟩ := h
  refine ⟨current, s, ⟨_, _, _⟩, hc, hs, rfl, rfl, ?_⟩
  by_cases hleft : current - min amount current = 0
  · exact .inl hleft
  · exact .inr (if_neg hleft)

theorem stableDebtStages_moved (h : loans) (rate : Int) :
    Moved loans r p (Stage.advance (stableDebtStages amount rate now) (r, p)).state := by
  unfold stableDebtStages Stage.advance
  split
  · rename_i rp hl
    obtain ⟨current, x, _, hpos, rfl⟩ := lendStable_ok hl
    unfold Stage.advance
    split
    · rename_i ha
      obtain ⟨s, hs, rfl⟩ := averageInStable_ok ha
      have hprincipal := updateStableRate_principal hs
      obtain ⟨total, y, _, _, _, rfl⟩ := updateStableRate_ok_iff.1 hs
      exact .averaged h _ _ hprincipal (Int.le_of_lt hpos)
    · exact .lent h _ (Int.le_of_lt hpos)
  · exact .nothing

theorem mintStableDebt_moved (h : loans) {rate : Int} {rp : WithPosition}
    (hm : Stage.perform (stableDebtStages amount rate now) (r, p) = .ok rp) : Moved loans r p rp := by
  have hmoved : Moved loans r p (Stage.advance (stableDebtStages amount rate now) (r, p)).state :=
    stableDebtStages_moved h rate
  have hstate := Stage.toExcept_advance (stableDebtStages amount rate now) (r, p)
  rw [hm] at hstate
  unfold Progress.toExcept at hstate
  split at hstate
  · rwa [Except.ok.inj hstate] at hmoved
  · cases hstate

theorem burnStableDebt_moved (h : loans) {rp : WithPosition}
    (hb : r.burnStableDebt p amount now = .ok rp) : Moved loans r p rp := by
  obtain ⟨current, s, y, _, hs, rfl, hy, _⟩ := burnStableDebt_ok hb
  have hprincipal := updateStableRate_principal hs
  obtain ⟨total, x, _, _, _, rfl⟩ := updateStableRate_ok_iff.1 hs
  exact .averaged h _ _ hprincipal (by omega)

end Reserve

end MoneyMarket
