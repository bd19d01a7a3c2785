import MoneyMarket.Proofs.Pool.Reach

/-!
# All or nothing

An operation that fails leaves the pool as it was: records and their order, users of margin, events,
instructions and clock. Strategies need no going back to: no work on accounts changes one, not even
for a while.
-/

namespace MoneyMarket

open MoneyMarket.Reserve

/-! ## Strategies -/

theorem Reserve.Moved.strategy {loans : Prop} {r : Reserve} {p : Position} {rp : WithPosition}
    (h : Moved loans r p rp) : rp.1.strategy = r.strategy := by cases h <;> rfl

namespace Ledger

def SameStrategies (l m : Ledger) : Prop :=
  ∀ a, (m.reserve? a).map Reserve.strategy = (l.reserve? a).map Reserve.strategy

variable {loans : Prop} {l m : Ledger}

theorem sameStrategies_setReserve {a : Key} {r s : Reserve} (hr : l.reserve? a = some r)
    (hs : s.strategy = r.strategy) : SameStrategies l (l.setReserve a s) :=
  map_reserve?_setReserve hr hs

theorem Step.sameStrategies (h : Step loans l m) : SameStrategies l m := by
  cases h with
  | accrue hr hs => exact sameStrategies_setReserve hr hs.strategy
  | money hr | average _ hr => exact sameStrategies_setReserve hr rfl
  | move hr hm => exact sameStrategies_setReserve (l := l.openPosition _ _) hr hm.strategy
  | credit hr treasury => exact sameStrategies_setReserve (l := l.modifyPosition treasury _ _) hr rfl
  | handOver | openPosition | switch | switchMargin => exact fun _ => rfl

theorem Steps.sameStrategies (h : Steps loans l m) : SameStrategies l m := by
  refine h.preserves (I := SameStrategies l) ?_ fun _ => rfl
  intro m n hstep hm a
  rw [hstep.sameStrategies a, hm a]

end Ledger

/-! ## Operations -/

namespace Pool

open MoneyMarket.Ledger

variable {loans : Prop} {p : Pool} {f : Fault} {α : Type}

theorem transact_error_eq {work : LedgerWork (Receipt α)} (h : LedgerWork.Within loans work)
    (hf : (p.transact work).2 = .error f) : (p.transact work).1 = p := by
  rcases transact_cases (p := p) h with ⟨_, _, _, _, ht⟩ | ⟨_, _, _, _, ht⟩
  · rw [ht] at hf
    cases hf
  · rw [ht]

theorem change_error_eq {result : Except Fault (Pool × α)} (hf : (p.change result).2 = .error f) :
    (p.change result).1 = p := by
  unfold change at hf ⊢
  split at hf
  · cases hf
  · rfl

theorem changeOnly_error_eq {result : Except Fault Pool}
    (hf : (p.changeOnly result).2 = .error f) : (p.changeOnly result).1 = p := change_error_eq hf

theorem perform_error_eq {op : Operation} (hf : (p.perform op).2 = .error f) :
    (p.perform op).1 = p := by
  cases htx : p.transaction? op with
  | some work =>
    rw [perform_transaction htx] at hf ⊢
    exact transact_error_eq (within_transaction htx) hf
  | none =>
    cases op <;> simp only [transaction?, reduceCtorEq] at htx
    case setPaused | setOffline => cases hf
    case advanceTime | pushMargin => exact change_error_eq hf
    all_goals exact changeOnly_error_eq hf

theorem liquidateMarginWith_error_eq {counterparty : Counterparty} {caller : Json}
    {m : MarginRequest} (hf : (p.liquidateMarginWith counterparty caller m).2 = .error f) :
    (p.liquidateMarginWith counterparty caller m).1 = p := by
  unfold liquidateMarginWith at hf ⊢
  split
  · rfl
  · rename_i hcaller
    rw [if_neg hcaller] at hf
    exact transact_error_eq (within_settleMargin trivial counterparty m) hf

/-- **Atomicity.** A failed operation leaves the whole pool as it was, whatever the counterparty of
a margin liquidation may do. Where the work on accounts ends, before it is committed or taken back,
each reserve has the strategy it had. -/
theorem failed_operation_changes_nothing (p : Pool) :
    (∀ op f, (p.perform op).2 = .error f → (p.perform op).1 = p) ∧
    (∀ counterparty caller m f, (p.liquidateMarginWith counterparty caller m).2 = .error f →
      (p.liquidateMarginWith counterparty caller m).1 = p) ∧
    (∀ op work, p.transaction? op = some work →
      SameStrategies p.ledger (work.outcome p.ledger).1 ∧
      SameStrategies p.ledger (p.after op).ledger) ∧
    ∀ counterparty m,
      SameStrategies p.ledger ((p.settleMargin counterparty m).outcome p.ledger).1 := by
  refine ⟨fun op f => perform_error_eq, fun _ _ _ f => liquidateMarginWith_error_eq, ?_, ?_⟩
  · intro op work htx
    have hsteps := within_transaction htx p.ledger
    refine ⟨hsteps.sameStrategies, ?_⟩
    unfold after
    rw [perform_transaction htx]
    rcases transact_cases (p := p) (within_transaction htx) with
      ⟨_, l, _, hl, ht⟩ | ⟨_, _, _, _, ht⟩
    · rw [ht]
      exact Steps.sameStrategies (hl.trans (creditTreasury_steps _ l))
    · rw [ht]
      exact fun _ => rfl
  · intro counterparty m
    exact (within_settleMargin trivial counterparty m p.ledger).sameStrategies

def indebtedForADay : List Operation :=
  [.initReserve .dai (.kinked .stableTwo),
    .setPrice (.text "DAI") (.whole 1000000000000000000),
    .deposit (.text "DAI") 1000000 (.text "ana"),
    .borrow (.text "DAI") 700000 2 (.text "ana"),
    .advanceTime 86400]

/-- The withdrawal is booked, with two accruals, before the account is found unhealthy. -/
theorem failed_withdrawal_changes_nothing :
    let p := run {} indebtedForADay
    let op := Operation.withdraw (.text "DAI") 300000 (.text "ana") none
    ((p.withdrawing (.text "DAI") 300000 (.text "ana") none).outcome p.ledger).1 ≠ p.ledger ∧
      ∃ f, (p.perform op).2 = .error f ∧ (p.perform op).1 = p := by
  intro p op
  refine ⟨by decide +kernel, ?_⟩
  have hfails : (p.perform op).2.toOption.isNone := by decide +kernel
  cases hf : (p.perform op).2 with
  | ok a =>
    rw [hf] at hfails
    cases hfails
  | error f => exact ⟨f, rfl, (failed_operation_changes_nothing p).1 op f hf⟩

end Pool

end MoneyMarket
