import MoneyMarket.Proofs.Ledger.Rounds
import MoneyMarket.Proofs.Pool.Completed
import MoneyMarket.Proofs.Pool.Timely

/-!
# Rounds in a pool

What an operation makes of a reserve. Operations on accounts take it through rounds and settle with
the treasury; administration sets its flags or a parameter of its strategy, or lists it.
-/

namespace MoneyMarket

open MoneyMarket.Reserve

def Reserve.opened (config : ReserveConfig) (strategy : RateStrategy) (now : Int) : Reserve where
  asset := config.symbol
  config := config
  strategy := strategy
  lastUpdateTimestamp := now

namespace Pool

open MoneyMarket.Ledger MoneyMarket.LedgerWork

variable {p : Pool} {l m : Ledger} {op : Operation} {a : Key} {s : Reserve}

theorem Completes.rounds {receipt : Receipt Outcome} (h : Completes p l m op receipt) :
    Rounds p.clock l m := by
  cases h with
  | deposit h =>
    obtain ⟨_, _, hbook, _⟩ := depositing_completed h
    exact bookDeposit_rounds hbook
  | withdraw h =>
    obtain ⟨_, _, emptied, _, hbook, _, rfl, _⟩ := withdrawing_completed h
    refine (bookWithdrawal_rounds hbook).trans (rounds_of_eq ?_)
    cases emptied <;> exact fun _ => rfl
  | borrow h =>
    obtain ⟨_, _, hbook, _⟩ := borrowing_completed h
    have hopened : Rounds p.clock (l.openPosition _ _) m := bookLoan_rounds hbook
    exact hopened
  | repay h =>
    obtain ⟨_, _, hbook, _⟩ := repaying_completed h
    exact bookRepayment_rounds hbook
  | setUsageAsCollateral h =>
    obtain ⟨_, rfl, _⟩ := switchingCollateral_completed h
    exact rounds_of_eq fun _ => rfl
  | setUsingMargin h =>
    obtain ⟨_, rfl, _⟩ := switchingMargin_completed h
    exact rounds_of_eq fun _ => rfl
  | liquidate h =>
    obtain ⟨_, hwork, _⟩ := liquidating_completed h
    obtain ⟨_, _, _, _, _, _, hsettle, hmove⟩ := liquidate_completed hwork
    exact (settleDebt_rounds hsettle).trans (moveCollateral_rounds hmove)
  | liquidateMargin h =>
    obtain ⟨_, _, hwork, _⟩ := settleMargin_completed h
    obtain ⟨_, _, _, hsettle⟩ := liquidateMargin_completed hwork
    exact settleDebt_rounds hsettle

/-- What `op` can have made of the reserves of a pool. -/
inductive Succeeds (p : Pool) (op : Operation) (a : Key) (s : Reserve) : Prop
  | proceeds {r : Reserve} (hr : p.ledger.reserve? a = some r)
      (h : Relation.ReflTransGen (Proceeds p.clock) r s) : Succeeds p op a s
  | listed {config : ReserveConfig} {strategy : RateStrategy}
      (hop : op = .initReserve config strategy) (ha : a = config.symbol.key)
      (hnew : p.ledger.reserve? a = none)
      (h : (opened config strategy p.clock).accrue p.clock = .ok s) : Succeeds p op a s

theorem succeeds_after_transaction {work : LedgerWork (Receipt Outcome)}
    (htx : p.transaction? op = some work) (hs : (p.after op).ledger.reserve? a = some s) :
    Succeeds p op a s := by
  rcases after_transaction htx with h | ⟨receipt, l, hw, _, h⟩ <;> rw [h] at hs
  · exact .proceeds hs .refl
  · obtain ⟨t, ht, rfl⟩ : ∃ t, l.reserve? a = some t ∧ { t with accruedToTreasury := 0 } = s := by
      rwa [commit, reserve?_creditTreasury, Option.map_eq_some_iff] at hs
    obtain ⟨r, hr, hrounds⟩ := (transaction_completes htx hw).rounds a t ht
    have hproceeds : Relation.ReflTransGen (Proceeds p.clock) r t :=
      Relation.ReflTransGen.mono (fun _ _ => .round) _ _ hrounds
    exact .proceeds hr (hproceeds.tail .settled)

def Inherits (p : Pool) (op : Operation) (q : Pool) : Prop :=
  ∀ a s, q.ledger.reserve? a = some s → Succeeds p op a s

theorem inherits_of_eq {q : Pool} (h : q.ledger = p.ledger) : Inherits p op q := by
  intro a s hs
  rw [h] at hs
  exact .proceeds hs .refl

theorem inherits_modified {r s : Reserve} (hr : p.ledger.reserve? a = some r)
    (h : Proceeds p.clock r s) : Inherits p op { p with ledger := p.ledger.setReserve a s } := by
  intro b t ht
  dsimp only at ht
  rw [reserve?_setReserve] at ht
  split at ht
  · rename_i hb
    cases ht
    exact .proceeds (hb ▸ hr) (.single h)
  · exact .proceeds ht .refl

theorem inherits_listed {config : ReserveConfig} {strategy : RateStrategy} {q : Pool}
    (h : p.initReserve config strategy = .ok q) : Inherits p (.initReserve config strategy) q := by
  obtain ⟨hnew, r, hr, rfl⟩ := initReserve_ok h
  intro a s hs
  dsimp only at hs
  rw [reserve?_setReserve] at hs
  split at hs
  · rename_i ha
    cases hs
    exact .listed rfl ha (ha ▸ hnew) hr
  · exact .proceeds hs .refl

theorem Administers.inherits {q : Pool} (h : Administers p op q) : Inherits p op q := by
  cases h with
  | unchanged | set | reported => exact inherits_of_eq rfl
  | flagged hr => exact inherits_modified hr (.flagged _ _ _)
  | governed hr hset => exact inherits_modified hr (.governed hset)
  | listed h => exact inherits_listed h

theorem after_inherits (p : Pool) (op : Operation) : Inherits p op (p.after op) := by
  cases htx : p.transaction? op with
  | some work => exact fun _ _ hs => succeeds_after_transaction htx hs
  | none => exact (after_administers htx).inherits

end Pool

end MoneyMarket
