import MoneyMarket.Proofs.Ledger.Outlook
import MoneyMarket.Proofs.Pool.Reach

/-!
# Operations at one time

An operation on accounts that is done has taken turns, at the time of the pool, on the positions of
the accounts that it names. No pool has a reserve that is ahead of its clock.
-/

namespace MoneyMarket.Pool

open MoneyMarket.Ledger MoneyMarket.Reserve

variable {p q : Pool} {op : Operation} {work : LedgerWork (Receipt Outcome)}

theorem transact_done {α : Type} {work : LedgerWork (Receipt α)} {answer : α}
    (h : (p.transact work).2 = .ok answer) : ∃ receipt l, work p.ledger = .ok receipt l ∧
      receipt.value = answer ∧ (p.transact work).1 = p.commit l receipt := by
  unfold transact LedgerWork.atomically at h ⊢
  cases hw : work p.ledger with
  | ok receipt l =>
    rw [hw] at h
    cases h
    exact ⟨receipt, l, rfl, rfl, rfl⟩
  | error f l =>
    rw [hw] at h
    cases h

theorem transaction_turns (htx : p.transaction? op = some work) {receipt : Receipt Outcome}
    {l : Ledger} (hw : work p.ledger = .ok receipt l) :
    Turns p.clock (· ∈ op.accounts) p.ledger l :=
  permits_transaction (LedgerWork.permits_turns p.clock (· ∈ op.accounts)) htx (fun _ hv => hv)
    _ _ _ hw

theorem after_transaction (htx : p.transaction? op = some work) :
    p.after op = p ∨ ∃ receipt l, work p.ledger = .ok receipt l ∧
      Turns p.clock (· ∈ op.accounts) p.ledger l ∧ p.after op = p.commit l receipt := by
  unfold after
  rw [perform_transaction htx]
  rcases transact_cases (p := p) (within_transaction htx) with
    ⟨receipt, l, hw, _, ht⟩ | ⟨_, _, _, _, ht⟩
  · right
    exact ⟨receipt, l, hw, transaction_turns htx hw, by rw [ht]⟩
  · left
    rw [ht]

theorem clock_after_transaction (htx : p.transaction? op = some work) :
    (p.after op).clock = p.clock := by
  rcases after_transaction htx with h | ⟨_, _, _, _, h⟩ <;> rw [h]
  rfl

theorem params_after_transaction (htx : p.transaction? op = some work) :
    (p.after op).params = p.params := by
  rcases after_transaction htx with h | ⟨_, _, _, _, h⟩ <;> rw [h]
  rfl

/-! ## Time -/

theorem Administered.timely (h : Administered p q) (hp : Timely p.clock p.ledger) :
    Timely q.clock q.ledger := by
  have honward : Onward True p q := h.onward
  have hbalanced := hp.balanced.evolves honward.ledger
  cases h with
  | same hledger hclock => exact hledger ▸ hp.later hclock
  | edited hr h =>
    have hs := hp.running _ _ hr
    refine ⟨hbalanced, running_setReserve hp.running ?_⟩
    rw [h]
    exact ⟨hs.rate, hs.income, hs.debt, hs.updated⟩
  | @listed config strategy _ h =>
    obtain ⟨_, r, hr, rfl⟩ := initReserve_ok h
    have hray := Int.le_of_lt FixedPoint.ray_pos
    have hnew : Running p.clock
        { asset := config.symbol, config, strategy, lastUpdateTimestamp := p.clock } :=
      ⟨Int.le_refl 0, hray, hray, Int.le_refl _⟩
    exact ⟨hbalanced, running_setReserve hp.running (hnew.updated_of_accrue hr).running⟩

theorem after_timely (hp : Timely p.clock p.ledger) (op : Operation) :
    Timely (p.after op).clock (p.after op).ledger := by
  cases htx : p.transaction? op with
  | none => exact (after_administered htx).timely hp
  | some work =>
    rcases after_transaction htx with h | ⟨_, l, _, hturns, h⟩ <;> rw [h]
    · exact hp
    · exact (hturns.timely hp).creditTreasury _

theorem Attainable.timely (h : Attainable p) : Timely p.clock p.ledger := by
  apply h.induct
  · intro _ clock
    refine ⟨.empty, ?_⟩
    intro a r hr
    rw [reserve?_empty] at hr
    cases hr
  · intro q op hq
    exact after_timely hq op

end MoneyMarket.Pool
