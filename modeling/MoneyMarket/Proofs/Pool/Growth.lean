import MoneyMarket.Proofs.Ledger.Readable
import MoneyMarket.Proofs.Pool.Lending
import MoneyMarket.Proofs.Pool.Rounds
import MoneyMarket.Proofs.Pool.Indices

/-!
# Growth

Indices never fall. Neither does what a position shows that nothing is booked in: its supply and its
debts are projected from indices that others replace whenever they use the reserve, but each round
of business takes the indices over from the projection, and time only raises it.
-/

namespace MoneyMarket

open MoneyMarket.FixedPoint MoneyMarket.Reserve

/-- Both readings give a result, and the second is not less. -/
def NoLess (x y : Except Fault Int) : Prop := ∃ m n, x = .ok m ∧ y = .ok n ∧ m ≤ n

/-- From one time to another a reserve has grown: what it stores and what it projects. -/
structure Reserve.Rises (now later : Int) (r s : Reserve) : Prop where
  income : r.liquidityIndex ≤ s.liquidityIndex
  debt : r.variableBorrowIndex ≤ s.variableBorrowIndex
  nextIncome : r.nextLiquidityIndex now ≤ s.nextLiquidityIndex later
  nextDebt : r.nextDebtIndex now ≤ s.nextDebtIndex later

theorem Reserve.Rises.refl (now : Int) (r : Reserve) : Rises now now r r :=
  ⟨Int.le_refl _, Int.le_refl _, Int.le_refl _, Int.le_refl _⟩

theorem Reserve.Rises.trans {now middle later : Int} {r s t : Reserve} (h : Rises now middle r s)
    (h' : Rises middle later s t) : Rises now later r t where
  income := Int.le_trans h.income h'.income
  debt := Int.le_trans h.debt h'.debt
  nextIncome := Int.le_trans h.nextIncome h'.nextIncome
  nextDebt := Int.le_trans h.nextDebt h'.nextDebt

theorem Reserve.Continues.rises {now later : Int} {r s : Reserve} (h : Continues now r s)
    (hle : now ≤ later) : Rises now later r s := by
  obtain ⟨hincome, hdebt⟩ := h.growing.nextIndices_mono hle
  exact ⟨h.income_le, h.debt_le, h.nextIncome ▸ hincome, h.nextDebt ▸ hdebt⟩

/-! ## Positions -/

section Positions

variable {now later : Int} {r s : Reserve} {pos : Position}

theorem Reserve.Rises.supply (h : Rises now later r s) (hr : Running now r) (hs : Running later s)
    (hpos : 0 ≤ pos.scaledBalance) (hnext : 0 ≤ r.nextLiquidityIndex now) :
    NoLess (pos.supplyBalance r now) (pos.supplyBalance s later) := by
  unfold Position.supplyBalance
  split
  · exact ⟨0, 0, rfl, rfl, Int.le_refl 0⟩
  · rw [hr.normalizedIncome_eq, hs.normalizedIncome_eq]
    refine ⟨_, _, mulChecked_ok _ _ hpos hnext, mulChecked_ok _ _ hpos ?_, ?_⟩
    · exact Int.le_trans hnext h.nextIncome
    · exact rayRound_mono hpos h.nextIncome

theorem Reserve.Rises.floating (h : Rises now later r s) (hr : Growing now r) (hs : Growing later s)
    (hpos : 0 ≤ pos.scaledVariableDebt) (hnext : 0 ≤ r.nextDebtIndex now)
    (hcounted : pos.scaledVariableDebt ≠ 0 → 0 < r.scaledVariableDebt ∧ 0 < s.scaledVariableDebt) :
    NoLess (pos.variableDebt r now) (pos.variableDebt s later) := by
  unfold Position.variableDebt
  split
  · exact ⟨0, 0, rfl, rfl, Int.le_refl 0⟩
  · rename_i howes
    obtain ⟨hr₀, hs₀⟩ := hcounted howes
    rw [hr.normalizedDebt_eq hr₀, hs.normalizedDebt_eq hs₀]
    refine ⟨_, _, mulChecked_ok _ _ hpos hnext, mulChecked_ok _ _ hpos ?_, ?_⟩
    · exact Int.le_trans hnext h.nextDebt
    · exact rayRound_mono hpos h.nextDebt

theorem Position.stableDebt_noLess (h : pos.loan.Readable now) (hle : now ≤ later) :
    NoLess (pos.stableDebt now) (pos.stableDebt later) := by
  obtain ⟨debt, hdebt⟩ := h
  obtain ⟨more, hmore, hmono⟩ := StableLoan.debt_later hdebt hle
  exact ⟨debt, more, hdebt, hmore, hmono⟩

end Positions

namespace Pool

open MoneyMarket.Ledger MoneyMarket.LedgerWork

variable {p : Pool} {op : Operation} {a : Key} {r s : Reserve}

/-! ## Loans -/

theorem after_readable (h : p.ledger.stableBook.Readable p.clock) (op : Operation) :
    (p.after op).ledger.stableBook.Readable (p.after op).clock := by
  have hclock := (after_onward p op).clock
  refine StableBook.Readable.later ?_ hclock
  cases htx : p.transaction? op with
  | none => rwa [evolves_stableBook (after_administered htx).onward.ledger]
  | some work =>
    rcases after_transaction htx with hafter | ⟨_, l, hw, _, hafter⟩ <;> rw [hafter]
    · exact h
    · have hl := permits_transaction (permits_readable p.clock) htx (fun _ _ => trivial) _ _ _ hw h
      rw [← creditTreasury_stableBook (.text p.params.treasury) l] at hl
      exact hl

theorem Attainable.readable (h : Attainable p) : p.ledger.stableBook.Readable p.clock := by
  apply h.induct (I := fun q => q.ledger.stableBook.Readable q.clock)
  · exact fun _ clock => readable_empty clock
  · exact fun q op hq => after_readable hq op

/-! ## Reserves -/

/-- Only whole tokens are listed, and with lawful strategies only. -/
def Operation.Lawful : Operation → Prop
  | .initReserve config strategy => 0 ≤ config.decimals ∧ strategy.Lawful
  | _ => True

theorem Succeeds.growing (h : Succeeds p op a s) (hop : op.Lawful)
    (hp : ∀ r, p.ledger.reserve? a = some r → Growing p.clock r) : Growing p.clock s := by
  cases h with
  | proceeds hr h =>
    induction h with
    | refl => exact hp _ hr
    | tail _ hlast ih => exact (hlast.continues ih).growing
  | @listed config strategy hop' _ _ h =>
    subst hop'
    have hray := Int.le_of_lt ray_pos
    have hrunning : Running p.clock (opened config strategy p.clock) :=
      ⟨Int.le_refl 0, hray, hray, Int.le_refl _⟩
    have hopened : Growing p.clock (opened config strategy p.clock) :=
      ⟨hrunning, Int.le_refl 0, hop.2⟩
    exact hopened.accrue h

theorem ReachableBy.growing (h : ReachableBy Operation.Lawful p) :
    ∀ a r, p.ledger.reserve? a = some r → Growing p.clock r := by
  apply h.induct (I := fun q => ∀ a r, q.ledger.reserve? a = some r → Growing q.clock r)
  · intro _ _ a r hr
    rw [reserve?_empty] at hr
    cases hr
  · intro q op _ hop hq a s hs
    have hgrowing := (after_inherits q op a s hs).growing hop (hq a)
    exact hgrowing.later (after_onward q op).clock

theorem Succeeds.continues (h : Succeeds p op a s) (hr : p.ledger.reserve? a = some r)
    (hgrowing : Growing p.clock r) : Continues p.clock r s := by
  cases h with
  | proceeds hr' h =>
    rw [hr, Option.some.injEq] at hr'
    subst hr'
    induction h with
    | refl => exact .refl hgrowing
    | tail _ hlast ih => exact ih.trans (hlast.continues ih.growing)
  | listed _ _ hnew => simp [hr] at hnew

theorem after_rises (hp : ReachableBy Operation.Lawful p) (op : Operation)
    (hr : p.ledger.reserve? a = some r) : ∃ s, (p.after op).ledger.reserve? a = some s ∧
      Rises p.clock (p.after op).clock r s := by
  obtain ⟨s, hs⟩ := (after_onward p op).ledger.extends.listed hr
  have hcontinues := (after_inherits p op a s hs).continues hr (hp.growing a r hr)
  exact ⟨s, hs, hcontinues.rises (after_onward p op).clock⟩

theorem run_rises (hp : ReachableBy Operation.Lawful p) {ops : List Operation}
    (hops : ∀ op ∈ ops, op.Lawful) (hr : p.ledger.reserve? a = some r) :
    ReachableBy Operation.Lawful (run p ops) ∧ ∃ s, (run p ops).ledger.reserve? a = some s ∧
      Rises p.clock (run p ops).clock r s := by
  induction ops generalizing p r with
  | nil => exact ⟨hp, r, hr, .refl _ r⟩
  | cons op rest ih =>
    have hop := hops op List.mem_cons_self
    obtain ⟨t, ht, hfirst⟩ := after_rises hp op hr
    obtain ⟨hreach, s, hs, hrest⟩ := ih (hp.after hop)
      (fun o ho => hops o (List.mem_cons_of_mem _ ho)) ht
    exact ⟨hreach, s, hs, hfirst.trans hrest⟩

/-- **Growth.** Along a run in which whole tokens are listed with lawful strategies, all reserves stay
listed, and their indices are at least one and never fall. A position that is after a stretch of the
run what it was before shows no less supply, variable debt or stable debt. -/
theorem untouched_never_shrinks (hp : ReachableBy Operation.Lawful p) {ops : List Operation}
    (hops : ∀ op ∈ ops, op.Lawful) :
    ∀ a r, p.ledger.reserve? a = some r → ∃ s, (run p ops).ledger.reserve? a = some s ∧
      ray ≤ r.liquidityIndex ∧ r.liquidityIndex ≤ s.liquidityIndex ∧
      ray ≤ r.variableBorrowIndex ∧ r.variableBorrowIndex ≤ s.variableBorrowIndex ∧
      ∀ user pos, p.ledger.position? user a = some pos →
        (run p ops).ledger.position? user a = some pos →
        NoLess (pos.supplyBalance r p.clock) (pos.supplyBalance s (run p ops).clock) ∧
        NoLess (pos.variableDebt r p.clock) (pos.variableDebt s (run p ops).clock) ∧
        NoLess (pos.stableDebt p.clock) (pos.stableDebt (run p ops).clock) := by
  intro a r hr
  obtain ⟨hq, s, hs, hrises⟩ := run_rises hp hops hr
  have hgrown := hp.attainable.grown a r hr
  have hgrowing := hp.growing a r hr
  have hgrowing' := hq.growing a s hs
  obtain ⟨hincome, hdebt⟩ := hgrowing.nextIndices_nonneg
  refine ⟨s, hs, hgrown.income, hrises.income, hgrown.debt, hrises.debt, ?_⟩
  intro user pos hpos hpos'
  have hheld := hp.attainable.timely.held hpos
  obtain ⟨howed, hcounted⟩ := hp.attainable.timely.counted hpos hr
  have hcounted' := (hq.attainable.timely.counted hpos' hs).2
  -- the position is the same at both ends, and so is the loan that is read at two times
  have hloan : pos.loan.Readable p.clock := by
    have hloan := hp.attainable.readable.loanOf a user
    rwa [loanOf_eq hpos] at hloan
  refine ⟨?_, ?_, ?_⟩
  · exact hrises.supply hgrowing.toRunning hgrowing'.toRunning hheld hincome
  · exact hrises.floating hgrowing hgrowing' howed hdebt fun howes =>
      ⟨hcounted howes, hcounted' howes⟩
  · exact Position.stableDebt_noLess hloan (clock_le_run p ops)

def lentBothWays : List Operation :=
  [.initReserve { ReserveConfig.dai with stableBorrowingEnabled := true } (.kinked .stableTwo),
    .initReserve .weth (.governed ⟨{}, by decide, by decide, by decide⟩),
    .setPrice (.text "DAI") (.whole 1000000000000000000),
    .setPrice (.text "WETH") (.whole 2000000000000000000000),
    .deposit (.text "DAI") 1000000 (.text "ben"),
    .deposit (.text "WETH") 1000000 (.text "ana"),
    .borrow (.text "DAI") 100000 1 (.text "ana"),
    .borrow (.text "DAI") 200000 2 (.text "ana")]

def usedByOthers : List Operation :=
  [.advanceTime 31536000,
    .deposit (.text "DAI") 1000000 (.text "dan"),
    .govern (.text "WETH") .slope "governance" 0,
    .withdraw (.text "DAI") 5000000 (.text "dan") none,
    .advanceTime 31536000]

theorem untouched_for_two_years :
    let p := run {} lentBothWays
    let q := run p usedByOthers
    ∃ r s pos, p.ledger.reserve? (.text "DAI") = some r ∧ q.ledger.reserve? (.text "DAI") = some s ∧
      p.ledger.position? (.text "ana") (.text "DAI") = some pos ∧
      q.ledger.position? (.text "ana") (.text "DAI") = some pos ∧
      ray ≤ r.variableBorrowIndex ∧ r.variableBorrowIndex ≤ s.variableBorrowIndex ∧
      pos.variableDebt r p.clock = .ok 200000 ∧
      NoLess (pos.variableDebt r p.clock) (pos.variableDebt s q.clock) ∧
      pos.stableDebt p.clock = .ok 100000 ∧
      NoLess (pos.stableDebt p.clock) (pos.stableDebt q.clock) := by
  intro p q
  have hstrategy : Kinked.NonNegative .stableTwo := by constructor <;> decide
  have hlawful : ∀ op ∈ lentBothWays, op.Lawful := by
    simp [lentBothWays, Operation.Lawful, RateStrategy.Lawful, hstrategy, ReserveConfig.dai,
      ReserveConfig.weth]
  have hothers : ∀ op ∈ usedByOthers, op.Lawful := by
    simp [usedByOthers, Operation.Lawful]
  have hp : ReachableBy Operation.Lawful p := ⟨{}, 0, lentBothWays, hlawful, rfl⟩
  have hlisted : ∃ r, p.ledger.reserve? (.text "DAI") = some r := by
    rw [← Option.isSome_iff_exists]
    decide +kernel
  have hopened : ∃ pos, p.ledger.position? (.text "ana") (.text "DAI") = some pos := by
    rw [← Option.isSome_iff_exists]
    decide +kernel
  obtain ⟨r, hr⟩ := hlisted
  obtain ⟨pos, hpos⟩ := hopened
  have hkept : q.ledger.position? (.text "ana") (.text "DAI") =
      p.ledger.position? (.text "ana") (.text "DAI") := by decide +kernel
  have howed : ((p.ledger.reserve? (.text "DAI")).all fun r =>
      (p.ledger.position? (.text "ana") (.text "DAI")).all fun pos =>
        (pos.variableDebt r p.clock).toOption = some 200000 ∧
          (pos.stableDebt p.clock).toOption = some 100000) = true := by decide +kernel
  simp only [hr, hpos, Option.all_some, decide_eq_true_iff, toOption_eq_some_iff] at howed
  obtain ⟨s, hs, -, -, hindex, hrise, hpositions⟩ := untouched_never_shrinks hp hothers _ r hr
  obtain ⟨-, hfloating, hstable⟩ := hpositions _ pos hpos (hkept.trans hpos)
  exact ⟨r, s, pos, hr, hs, hpos, hkept.trans hpos, hindex, hrise, howed.1, hfloating, howed.2,
    hstable⟩

end Pool

end MoneyMarket
