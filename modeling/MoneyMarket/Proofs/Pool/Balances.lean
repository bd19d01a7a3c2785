import MoneyMarket.Pool.Account
import MoneyMarket.Proofs.Pool.Bystander
import MoneyMarket.Proofs.Pool.Growth
import MoneyMarket.Proofs.Pool.Movements

/-!
# Displayed balances

A deposit, a withdrawal, a loan or a repayment changes one displayed balance of the account, by its
amount up to half a unit of the index and one, and a stable debt by the amount itself. Asking for all
that is displayed leaves nothing behind, whatever interest is pending.
-/

namespace MoneyMarket

open MoneyMarket.FixedPoint MoneyMarket.Reserve

def UserReserveData.balance (d : UserReserveData) : Holding → Int
  | .supply => d.supplyBalance
  | .floating => d.variableDebt
  | .stable => d.stableDebt

namespace Pool

open MoneyMarket.Ledger MoneyMarket.LedgerWork

variable {p : Pool} {user asset : Name} {op : Operation} {held : Holding} {answer : Outcome}

theorem userReserveData_eq {r : Reserve} (hr : p.ledger.reserve? asset = some r)
    {x : Holding → Int}
    (hx : ∀ held, (p.ledger.position user asset).shown r p.clock held = .ok (x held)) :
    p.userReserveData asset user = .ok {
      asset
      supplyBalance := x .supply
      stableDebt := x .stable
      variableDebt := x .floating
      stableRate := (p.ledger.position user asset).stableRate
      usedAsCollateral := (p.ledger.position user asset).usedAsCollateral } := by
  have hsupply := hx .supply
  have hfloating := hx .floating
  have hstable := hx .stable
  unfold userReserveData
  rw [reserve_ok_iff.2 hr, ok_bind]
  unfold Ledger.position at hsupply hfloating hstable ⊢
  cases hpos : p.ledger.position? user asset with
  | none =>
    rw [hpos] at hsupply hfloating hstable
    rw [← Except.ok.inj hsupply, ← Except.ok.inj hfloating, ← Except.ok.inj hstable]
    rfl
  | some pos =>
    rw [hpos] at hsupply hfloating hstable
    have hsupply : pos.supplyBalance r p.clock = .ok (x .supply) := hsupply
    have hfloating : pos.variableDebt r p.clock = .ok (x .floating) := hfloating
    have hstable : pos.stableDebt p.clock = .ok (x .stable) := hstable
    dsimp only
    rw [hsupply, hfloating, hstable]
    rfl

theorem transaction?_of_moves (hop : op.Moves held user asset) (p : Pool) :
    ∃ work, p.transaction? op = some work := by
  cases op <;> first | exact ⟨_, rfl⟩ | exact hop.elim

theorem Attainable.readable_position (h : Attainable p) (user asset : Name) :
    (p.ledger.position user asset).loan.Readable p.clock := by
  rw [loan_position]
  exact h.readable.loanOf asset user

theorem after_movement (h : Attainable p) (ht : user.key ≠ .text p.params.treasury)
    (hop : op.Moves held user asset) (hdone : (p.perform op).2 = .ok answer) :
    ∃ r m s pos, Movement held p.clock user asset (op.added (.ok answer) - op.taken (.ok answer))
        p.ledger r m s pos ∧ s.Grown ∧ (p.after op).clock = p.clock ∧
      (p.after op).ledger.position user asset = pos ∧
      (p.after op).ledger.reserve? asset = some { s with accruedToTreasury := 0 } ∧
      ∀ x, (p.ledger.position user asset).shown r p.clock held = .ok x → op.AsksAll x →
        answer = .amount x ∧ 0 < x := by
  obtain ⟨work, htx⟩ := transaction?_of_moves hop p
  rw [perform_transaction htx] at hdone
  obtain ⟨receipt, m, hw, rfl, hcommit⟩ := transact_done hdone
  have hafter : p.after op = p.commit m receipt := by rw [after, perform_transaction htx, hcommit]
  obtain ⟨r, s, pos, hmovement, hall⟩ := transaction_movement h.timely hop htx hw
  have hgrown := (transaction_turns htx hw).grown h.timely h.grown
  have hcredited : SameFor p.clock user.key m (creditTreasury _ m) := creditTreasury_sameFor ht m
  refine ⟨r, m, s, pos, hmovement, hgrown _ _ hmovement.1.after, ?_, ?_, ?_, hall⟩ <;> rw [hafter]
  · rfl
  · rw [← hmovement.1.position]
    unfold Ledger.position
    exact congrArg (Option.getD · _) (hcredited.position? asset)
  · show (creditTreasury _ m).reserve? asset = _
    rw [reserve?_creditTreasury, hmovement.1.after]
    rfl

/-- **Balances.** At the time of the call the balance that an operation moves its amount in follows
it, and the other two stay. The cap on shares makes no difference to an amount below what is
displayed. -/
theorem balances_follow_amounts (h : Reachable p) (ht : user.key ≠ .text p.params.treasury)
    (hop : op.Moves held user asset) (hdone : (p.perform op).2 = .ok answer) :
    (p.after op).clock = p.clock ∧
    (∃ before after r, p.userReserveData asset user = .ok before ∧
      (p.after op).userReserveData asset user = .ok after ∧
      (p.after op).ledger.reserve? asset = some r ∧ r.Grown ∧
      held.Follows r (after.balance held - before.balance held)
        (op.added (.ok answer) - op.taken (.ok answer)) ∧
      ∀ other, other ≠ held → after.balance other = before.balance other) ∧
    ∀ (r : Reserve) (pos : Position), r.Grown → 0 ≤ pos.scaledBalance →
      0 ≤ pos.scaledVariableDebt → r.Uncapped pos := by
  obtain ⟨r, m, s, pos, hmovement, hs, hclock, hpos, hr, _⟩ := after_movement h.attainable ht hop hdone
  have hreadable := h.attainable.readable_position user asset
  choose x y hx hy hfollows hkept using hmovement.shown h.attainable.timely hreadable hs.income hs.debt
  refine ⟨hclock, ⟨_, _, { s with accruedToTreasury := 0 }, userReserveData_eq hmovement.1.before hx,
    userReserveData_eq hr (x := y) ?_, hr, ⟨hs.income, hs.debt⟩, ?_, ?_⟩, ?_⟩
  · intro other
    rw [hclock, hpos, ← hy other]
    cases other <;> rfl
  · cases held <;> exact hfollows _ rfl
  · intro other hother
    cases other <;> exact hkept _ hother
  · intro r pos hr hsupply hdebt
    exact uncapped (Int.lt_of_lt_of_le ray_pos hr.income) (Int.lt_of_lt_of_le ray_pos hr.debt)
      hsupply hdebt

/-- At an index of 1.0018, from which nobody has drawn for a year, 278 is paid out for 278 shares. The
balance falls by 279. -/
theorem withdrawal_followed :
    let p := run {} owedForAYear
    let op := Operation.withdraw (.text "DAI") 278 (.text "ben") none
    op.taken (p.perform op).2 = 278 ∧ (p.after op).clock = p.clock ∧ ∃ before after r,
      p.userReserveData (.text "DAI") (.text "ben") = .ok before ∧
      (p.after op).userReserveData (.text "DAI") (.text "ben") = .ok after ∧
      (p.after op).ledger.reserve? (.text "DAI") = some r ∧
      before.supplyBalance = 500900 ∧ after.supplyBalance = 500621 ∧
      Close r.liquidityIndex 1 (after.supplyBalance - before.supplyBalance) (0 - 278) ∧
      after.variableDebt = before.variableDebt ∧ after.stableDebt = before.stableDebt := by
  intro p op
  have hreachable : Reachable p := ⟨⟨{}, 0, owedForAYear, rfl⟩, by decide +kernel⟩
  have htaken : op.taken (p.perform op).2 = 278 := by decide +kernel
  have hbefore : (p.userReserveData (.text "DAI") (.text "ben")).toOption.map (·.supplyBalance) =
      some 500900 := by decide +kernel
  have hafter : ((p.after op).userReserveData (.text "DAI") (.text "ben")).toOption.map
      (·.supplyBalance) = some 500621 := by decide +kernel
  have hdone : (p.perform op).2.toOption.isSome := by decide +kernel
  obtain ⟨answer, hanswer⟩ := Option.isSome_iff_exists.1 hdone
  rw [toOption_eq_some_iff] at hanswer
  refine ⟨htaken, ?_⟩
  rw [hanswer] at htaken
  have hmoves : op.Moves .supply (.text "ben") (.text "DAI") := ⟨rfl, rfl, rfl⟩
  obtain ⟨hclock, ⟨before, after, r, hread, hread', hr, _, hfollows, hkept⟩, _⟩ :=
    balances_follow_amounts hreachable (by decide) hmoves hanswer
  rw [hread] at hbefore
  rw [hread'] at hafter
  rw [htaken] at hfollows
  exact ⟨hclock, before, after, r, hread, hread', hr, Option.some.inj hbefore,
    Option.some.inj hafter, hfollows, hkept .floating nofun, hkept .stable nofun⟩

theorem Operation.AsksAll.moved {x : Int} (h : op.AsksAll x) (n : Int) :
    op.added (.ok (.amount n)) - op.taken (.ok (.amount n)) = -n := by
  cases h <;> exact Int.zero_sub n

/-- **Full exits.** A withdrawal or a repayment that asks for all that is displayed gives that much
and leaves nothing of it. -/
theorem full_exit (h : Reachable p) (ht : user.key ≠ .text p.params.treasury)
    (hop : op.Moves held user asset) (hdone : (p.perform op).2 = .ok answer) :
    ∃ before, p.userReserveData asset user = .ok before ∧
      (op.AsksAll (before.balance held) → answer = .amount (before.balance held) ∧
        ((p.after op).ledger.position user asset).Lacks held) := by
  obtain ⟨r, m, s, pos, hmovement, hs, _, hpos, _, hall⟩ := after_movement h.attainable ht hop hdone
  have hreadable := h.attainable.readable_position user asset
  choose x y hx hy hfollows hkept using hmovement.shown h.attainable.timely hreadable hs.income hs.debt
  refine ⟨_, userReserveData_eq hmovement.1.before hx, ?_⟩
  intro hasks
  obtain ⟨hanswer, hsome⟩ := hall (x held) (hx held) (by cases held <;> exact hasks)
  have hmoved := hasks.moved (x held)
  rw [← hanswer] at hmoved
  rw [hpos]
  exact ⟨by cases held <;> exact hanswer, hmovement.emptied h.attainable.timely (hx held) hsome hmoved⟩

/-- With a year of interest that nobody has stored yet, a supplier takes everything, and a debtor
repays more than everything. -/
theorem exits_after_a_year :
    let p := run {} owedForAYear
    let withdrawal := Operation.withdraw (.text "DAI") maxAmount (.text "ben") none
    let repayment := Operation.repay (.text "DAI") 400000 RateMode.floating.number (.text "ana")
    ((p.perform withdrawal).2 = .ok (.amount 500900) ∧
      ((p.after withdrawal).ledger.position (.text "ben") (.text "DAI")).Lacks .supply) ∧
    (p.perform repayment).2 = .ok (.amount 303015) ∧
      ((p.after repayment).ledger.position (.text "ana") (.text "DAI")).Lacks .floating := by
  intro p withdrawal repayment
  have hreachable : Reachable p := ⟨⟨{}, 0, owedForAYear, rfl⟩, by decide +kernel⟩
  have hsupply : (p.userReserveData (.text "DAI") (.text "ben")).toOption.map (·.supplyBalance) =
      some 500900 := by decide +kernel
  have hdebt : (p.userReserveData (.text "DAI") (.text "ana")).toOption.map (·.variableDebt) =
      some 303015 := by decide +kernel
  have hpaidOut : (p.perform withdrawal).2.toOption.isSome := by decide +kernel
  have hpaid : (p.perform repayment).2.toOption.isSome := by decide +kernel
  constructor
  · obtain ⟨answer, hanswer⟩ := Option.isSome_iff_exists.1 hpaidOut
    rw [toOption_eq_some_iff] at hanswer
    have hmoves : withdrawal.Moves .supply (.text "ben") (.text "DAI") := ⟨rfl, rfl, rfl⟩
    obtain ⟨before, hread, hall⟩ := full_exit hreachable (by decide) hmoves hanswer
    rw [hread] at hsupply
    have hbalance : before.balance .supply = 500900 := Option.some.inj hsupply
    obtain ⟨hgiven, hnone⟩ := hall (.withdraw (.inl rfl))
    exact ⟨by rw [hanswer, hgiven, hbalance], hnone⟩
  · obtain ⟨answer, hanswer⟩ := Option.isSome_iff_exists.1 hpaid
    rw [toOption_eq_some_iff] at hanswer
    have hmoves : repayment.Moves .floating (.text "ana") (.text "DAI") :=
      ⟨⟨.floating, rfl, rfl⟩, rfl, rfl⟩
    obtain ⟨before, hread, hall⟩ := full_exit hreachable (by decide) hmoves hanswer
    rw [hread] at hdebt
    have hbalance : before.balance .floating = 303015 := Option.some.inj hdebt
    obtain ⟨hgiven, hnone⟩ := hall (.repay (by omega))
    exact ⟨by rw [hanswer, hgiven, hbalance], hnone⟩

end Pool

end MoneyMarket
