import MoneyMarket.Proofs.Ledger.Trades
import MoneyMarket.Proofs.Pool.Bystander
import MoneyMarket.Proofs.Pool.Indices
import MoneyMarket.Proofs.Pool.Movements

/-!
# Trading in one reserve

What an account pays in and takes out at one time comes to the change of its balance, up to half a
unit of the index for each operation and one. Where nothing has accrued yet it is the change.
-/

namespace MoneyMarket.Pool

open MoneyMarket.FixedPoint MoneyMarket.Ledger MoneyMarket.LedgerWork MoneyMarket.Reserve

/-! ## Amounts -/

def Operation.Trades (side : Side) (user asset : Key) : Operation → Prop
  | .deposit a _ u | .withdraw a _ u _ => side = .supply ∧ a.key = asset ∧ u.key = user
  | .borrow a _ mode u | .repay a _ mode u =>
    side = .debt ∧ mode = RateMode.floating.number ∧ a.key = asset ∧ u.key = user
  | _ => False

def Operation.counted : Operation → Except Fault Outcome → Int
  | _, .ok _ => 1
  | _, .error _ => 0

@[simp] theorem Operation.counted_error (op : Operation) (f : Fault) :
    op.counted (.error f) = 0 := rfl

def total (f : Operation → Except Fault Outcome → Int) (p : Pool) : List Operation → Int
  | [] => 0
  | op :: rest => f op (p.perform op).2 + (p.after op).total f rest

variable {p : Pool} {m : Ledger} {op : Operation}
variable {ops : List Operation} {side : Side}

/-! ## One trade -/

theorem ray_le_index_of_grown {r : Reserve} (hr : r.Grown) (side : Side) : ray ≤ side.index r := by
  cases side with
  | supply => exact hr.income
  | debt => exact hr.debt

theorem Operation.Trades.moves {user asset : Key} (h : op.Trades side user asset) :
    ∃ u a : Name, u.key = user ∧ a.key = asset ∧ op.Moves side.holding u a := by
  cases op with
  | deposit | withdraw =>
    obtain ⟨rfl, ha, hu⟩ := h
    exact ⟨_, _, hu, ha, rfl, rfl, rfl⟩
  | borrow | repay =>
    obtain ⟨rfl, hmode, ha, hu⟩ := h
    exact ⟨_, _, hu, ha, ⟨_, hmode, rfl⟩, rfl, rfl⟩
  | _ => exact h.elim

theorem transaction_trade {user asset : Key} (hl : Timely p.clock p.ledger) (hm : m.Grown)
    (hop : op.Trades side user asset) {work : LedgerWork (Receipt Outcome)}
    {receipt : Receipt Outcome} (htx : p.transaction? op = some work)
    (hw : work p.ledger = .ok receipt m) :
    ∃ index, Trade side p.clock user asset index 1
      (op.added (.ok receipt.value) - op.taken (.ok receipt.value)) p.ledger m := by
  obtain ⟨u, a, rfl, rfl, hmoves⟩ := hop.moves
  obtain ⟨r, s, pos, hmovement, _⟩ := transaction_movement hl hmoves htx hw
  exact ⟨_, hmovement.trade hl (ray_le_index_of_grown (hm _ _ hmovement.1.after) side)⟩

section Trading

variable {user asset : Key}

theorem transaction?_of_trades (hop : op.Trades side user asset) (p : Pool) :
    ∃ work, p.transaction? op = some work := by
  apply transaction?_of_accounts
  cases op <;> first | exact List.cons_ne_nil _ _ | exact hop.elim

theorem after_trade (h : Attainable p) (ht : user ≠ .text p.params.treasury)
    (hop : op.Trades side user asset) : (∃ f, p.perform op = (p, .error f)) ∨
      ∃ answer index, (p.perform op).2 = .ok answer ∧
        Trade side p.clock user asset index 1 (op.added (.ok answer) - op.taken (.ok answer))
          p.ledger (p.after op).ledger := by
  obtain ⟨work, htx⟩ := transaction?_of_trades hop p
  unfold after
  rw [perform_transaction htx]
  rcases transact_cases (p := p) (within_transaction htx) with
    ⟨receipt, m, hw, _, ht'⟩ | ⟨f, _, _, _, ht'⟩ <;> rw [ht']
  · right
    have hm := (transaction_turns htx hw).grown h.timely h.grown
    obtain ⟨index, htrade⟩ := transaction_trade h.timely hm hop htx hw
    exact ⟨receipt.value, index, rfl, htrade.creditTreasury ht⟩
  · exact .inl ⟨f, rfl⟩

/-- What has changed in a run of trades, unless all of them have failed. -/
theorem run_trades (h : Attainable p) (ht : user ≠ .text p.params.treasury)
    (hops : ∀ op ∈ ops, op.Trades side user asset) :
    (p.run ops = p ∧ p.total Operation.counted ops = 0 ∧ p.total Operation.added ops = 0 ∧
      p.total Operation.taken ops = 0) ∨
    (p.run ops).clock = p.clock ∧
      ∃ index, Trade side p.clock user asset index (p.total Operation.counted ops)
        (p.total Operation.added ops - p.total Operation.taken ops) p.ledger (p.run ops).ledger := by
  -- a trade that fails leaves the pool as it was, so a run may come to nothing at all
  induction ops generalizing p with
  | nil => exact .inl ⟨rfl, rfl, rfl, rfl⟩
  | cons op rest ih =>
    rw [List.forall_mem_cons] at hops
    obtain ⟨work, htx⟩ := transaction?_of_trades hops.1 p
    have hclock := clock_after_transaction htx
    have hparams := params_after_transaction htx
    have hrest := ih (attainable_after h op) (hparams ▸ ht) hops.2
    have hrun : p.run (op :: rest) = (p.after op).run rest := rfl
    simp only [total, hrun]
    rcases after_trade h ht hops.1 with ⟨f, hfailed⟩ | ⟨answer, index, hanswer, htrade⟩
    · have hsame : p.after op = p := congrArg Prod.fst hfailed
      rw [hsame] at hrest ⊢
      simpa [hfailed] using hrest
    · rw [hclock] at hrest
      rw [hanswer]
      right
      rcases hrest with ⟨hidle, hcounted, hadded, htaken⟩ | ⟨hclock', index', htrades⟩
      · rw [hidle, hcounted, hadded, htaken, Int.add_zero, Int.add_zero, Int.add_zero]
        exact ⟨hclock, index, htrade⟩
      · have hsum : ∀ a t b u : Int, a - t + (b - u) = a + b - (t + u) := by
          intro a t b u
          omega
        have htraded := htrade.trans htrades
        rw [hsum] at htraded
        exact ⟨hclock', index, htraded⟩

theorem ray_le_index (h : Attainable p) {r : Reserve} (hr : p.ledger.reserve? asset = some r)
    (side : Side) : ray ≤ side.index r :=
  ray_le_index_of_grown (h.grown _ _ hr) side

/-- **Trading.** What is left on either side, with what was taken from it, comes to what was there,
with what was added, up to half a unit of the index for each operation that was done and one. At an
index of one it is the same amount. -/
theorem trades_nearly_even (h : Reachable p) (ht : user ≠ .text p.params.treasury)
    (hops : ∀ op ∈ ops, op.Trades side user asset) {initial : Int}
    (hinitial : side.shown? p.ledger p.clock user asset = some initial) :
    (p.run ops).clock = p.clock ∧ ∃ final r,
      side.shown? (p.run ops).ledger p.clock user asset = some final ∧
      (p.run ops).ledger.reserve? asset = some r ∧ ray ≤ side.index r ∧
      Close (side.index r) (p.total Operation.counted ops) (p.total Operation.taken ops + final)
        (p.total Operation.added ops + initial) := by
  rcases run_trades h.attainable ht hops with ⟨hsame, hcounted, hadded, htaken⟩ | ⟨hclock, index, htrade⟩
  · rw [hsame, hcounted, hadded, htaken]
    obtain ⟨r, hr, _⟩ := Option.bind_eq_some_iff.1 hinitial
    exact ⟨rfl, initial, r, hinitial, hr, ray_le_index h.attainable hr side, .refl _ _⟩
  · obtain ⟨hbefore, hafter⟩ := htrade.shown _ hinitial
    obtain ⟨r, hr, hindex, _⟩ := htrade.reserve
    refine ⟨hclock, _, r, hafter, hr, ray_le_index (attainable_run h.attainable ops) hr side, ?_⟩
    rw [hindex, hbefore]
    exact htrade.tracks.close

end Trading

def inAndOut : List Operation :=
  [.deposit (.text "DAI") 278 (.text "dan"),
    .withdraw (.text "DAI") maxAmount (.text "dan") none]

/-- At an index of 1.01005 a loan of 51 is rounded down to 50 shares. -/
def smallLoans : List Operation :=
  List.replicate 3 (.borrow (.text "DAI") 51 RateMode.floating.number (.text "ana"))

theorem inAndOut_trades : ∀ op ∈ inAndOut, op.Trades .supply (.text "dan") (.text "DAI") := by
  simp [inAndOut, Operation.Trades, Name.key]

theorem smallLoans_trade : ∀ op ∈ smallLoans, op.Trades .debt (.text "ana") (.text "DAI") := by
  simp [smallLoans, Operation.Trades, Name.key]

theorem inAndOut_nearly_even :
    let p := run {} owedForAYear
    p.total Operation.counted inAndOut = 2 ∧ p.total Operation.added inAndOut = 278 ∧
    p.total Operation.taken inAndOut = 279 ∧ (p.run inAndOut).clock = p.clock ∧ ∃ final r,
      Side.supply.shown? (p.run inAndOut).ledger p.clock (.text "dan") (.text "DAI") = some final ∧
      (p.run inAndOut).ledger.reserve? (.text "DAI") = some r ∧ ray ≤ r.liquidityIndex ∧
      Close r.liquidityIndex 2 (279 + final) (278 + 0) := by
  intro p
  have hreachable : Reachable p := ⟨⟨{}, 0, owedForAYear, rfl⟩, by decide +kernel⟩
  have hnothing : Side.supply.shown? p.ledger p.clock (.text "dan") (.text "DAI") = some 0 := by
    decide +kernel
  have hcounted : p.total Operation.counted inAndOut = 2 := by decide +kernel
  have hadded : p.total Operation.added inAndOut = 278 := by decide +kernel
  have htaken : p.total Operation.taken inAndOut = 279 := by decide +kernel
  have heven := trades_nearly_even hreachable (by decide) inAndOut_trades hnothing
  rw [hcounted, hadded, htaken] at heven
  exact ⟨hcounted, hadded, htaken, heven⟩

/-- Rounding favours a supplier who withdraws everything at once, and a debtor. -/
theorem trading_gains :
    let p := run {} owedForAYear
    Reachable p ∧ Key.text "dan" ≠ .text p.params.treasury ∧
    Key.text "ana" ≠ .text p.params.treasury ∧
    ((∀ op ∈ inAndOut, op.Trades .supply (.text "dan") (.text "DAI")) ∧
      p.total Operation.counted inAndOut = 2 ∧
      Side.supply.shown? p.ledger p.clock (.text "dan") (.text "DAI") = some 0 ∧
      Side.supply.shown? (p.run inAndOut).ledger p.clock (.text "dan") (.text "DAI") = some 0 ∧
      ¬ p.total Operation.taken inAndOut + 0 ≤ p.total Operation.added inAndOut + 0) ∧
    ((∀ op ∈ smallLoans, op.Trades .debt (.text "ana") (.text "DAI")) ∧
      p.total Operation.counted smallLoans = 3 ∧
      Side.debt.shown? p.ledger p.clock (.text "ana") (.text "DAI") = some 303015 ∧
      Side.debt.shown? (p.run smallLoans).ledger p.clock (.text "ana") (.text "DAI") =
        some 303167 ∧
      ¬ p.total Operation.added smallLoans + 303015 ≤
        p.total Operation.taken smallLoans + 303167) := by
  intro p
  refine ⟨⟨⟨{}, 0, owedForAYear, rfl⟩, ?_⟩, by decide, by decide, ⟨inAndOut_trades, ?_, ?_, ?_, ?_⟩,
    smallLoans_trade, ?_, ?_, ?_, ?_⟩ <;> decide +kernel

end MoneyMarket.Pool
