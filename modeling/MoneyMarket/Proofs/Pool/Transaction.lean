import MoneyMarket.Pool.Operation
import MoneyMarket.Proofs.Ledger.Rollback
import MoneyMarket.Proofs.Ledger.Work

/-!
# Operations as transactions

The operations on accounts are all of one form: work on the ledger by steps, which is committed or
taken back. The other operations set one thing each.
-/

namespace MoneyMarket.Pool

open MoneyMarket.Ledger MoneyMarket.LedgerWork

def Receipt.answer {α : Type} (receipt : Receipt α) (f : α → Outcome) : Receipt Outcome :=
  ⟨f receipt.value, receipt.contents, receipt.settlement⟩

/-- What an operation on accounts does to the ledger. The other operations are none. -/
def transaction? (p : Pool) : Operation → Option (LedgerWork (Receipt Outcome))
  | .deposit asset amount user =>
    some ((·.answer fun _ => .done) <$> p.depositing asset amount user)
  | .withdraw asset amount user recipient =>
    some ((·.answer .amount) <$> p.withdrawing asset amount user recipient)
  | .borrow asset amount number user => some do
    let mode ← p.requireMode asset number
    (·.answer fun _ => .done) <$> p.borrowing asset amount mode user
  | .repay asset amount number user => some do
    let mode ← p.requireMode asset number
    (·.answer .amount) <$> p.repaying asset amount mode user
  | .setUsageAsCollateral user asset enabled =>
    some ((·.answer fun _ => .done) <$> p.switchingCollateral user asset enabled)
  | .setUsingMargin user enabled =>
    some ((·.answer fun _ => .done) <$> p.switchingMargin user enabled)
  | .liquidate call => some ((·.answer .liquidated) <$> p.liquidating call)
  | .liquidateMargin caller request => some do
    if caller ≠ .text p.params.settlementCounterparty then
      throw (.refused (.notCounterparty caller))
    (·.answer .liquidated) <$> p.settleMargin p.settlement.submit request
  | _ => none

/-- The accounts that an operation names: user, borrower and liquidator. -/
def Operation.accounts : Operation → List Key
  | .deposit _ _ user | .withdraw _ _ user _ => [user.key]
  | .borrow _ _ _ user | .repay _ _ _ user => [user.key]
  | .setUsageAsCollateral user _ _ | .setUsingMargin user _ => [user.key]
  | .liquidate call => call.borrower.key :: (call.liquidator.name?.map Name.key).toList
  | .liquidateMargin _ request => [request.borrower.key]
  | _ => []

/-! ## Work of the operations -/

section Permits

variable {P : {α : Type} → LedgerWork α → Prop} {named : Key → Prop} {loans : Prop} {p : Pool}
variable (h : Permits P p.clock named loans) {user : Name}
include h

theorem permits_depositing (hu : named user) (asset : Name) (amount : Int) :
    P (p.depositing asset amount user) := by
  have hbook : P (bookDeposit asset amount user p.clock) := by
    unfold bookDeposit
    apply h.andThen (h.accrue _)
    intro _
    apply h.andThen (h.position _ _)
    intro _
    apply h.andThen (h.money _ _)
    intro _
    apply h.andThen
    · exact h.booking _ _ hu
    intro _
    dsimp only
    split
    · exact h.andThen (h.switch _ _ hu) fun _ => h.andThen (h.accrue _) fun _ => h.done _
    · exact h.andThen (h.accrue _) fun _ => h.done _
  unfold depositing
  apply h.andThen h.read
  intro _
  apply h.andThen (h.lift _)
  intro _
  exact h.andThen hbook fun _ => h.done _

theorem permits_withdrawing (hu : named user) (asset : Name) (amount : Int)
    (recipient : Option Name) : P (p.withdrawing asset amount user recipient) := by
  have hbook (taken : Int) : P (bookWithdrawal asset taken user p.clock) := by
    unfold bookWithdrawal
    apply h.andThen (h.accrue _)
    intro _
    apply h.andThen
    · exact h.booking _ _ hu
    intro _
    exact h.andThen (h.money _ _) fun _ => h.accrue _
  unfold withdrawing
  apply h.andThen h.read
  intro _
  apply h.andThen (h.lift _)
  intro taken
  apply h.andThen (h.position _ _)
  intro _
  apply h.andThen (hbook taken)
  intro _
  apply h.andThen (h.position _ _)
  intro _
  dsimp only
  split
  · apply h.andThen (h.switch _ _ hu)
    intro _
    split
    · exact h.andThen h.read fun _ => h.andThen (h.lift _) fun _ => h.done _
    · exact h.done _
  · split
    · exact h.andThen h.read fun _ => h.andThen (h.lift _) fun _ => h.done _
    · exact h.done _

theorem permits_borrowing (hu : named user) (asset : Name) (amount : Int) {mode : RateMode}
    (hmode : mode = .stable → loans) : P (p.borrowing asset amount mode user) := by
  have hmint (rate : Int) :
      (mintBooking mode user amount rate p.clock).Allowed p.clock named loans := by
    cases mode with
    | stable => exact ⟨hmode rfl, hu, rfl⟩
    | floating => exact hu
  have hbook : P (bookLoan asset amount mode user p.clock) := by
    unfold bookLoan
    apply h.andThen (h.accrue _)
    intro _
    apply h.andThen (h.reserve _)
    intro _
    apply h.andThen (h.booking _ _ (hmint _))
    intro _
    apply h.andThen (h.money _ _)
    intro _
    exact h.andThen (h.accrue _) fun _ => h.done _
  unfold borrowing
  apply h.andThen h.read
  intro _
  apply h.andThen (h.lift _)
  intro _
  apply h.andThen (h.opening _ hu)
  intro _
  have hrest : P (do
      let rate ← bookLoan asset amount mode user p.clock
      p.requireHealthy (← get) user "borrow"
      return ({ value := (), contents := [.borrow asset user amount mode rate] } : Receipt Unit)) :=
    h.andThen hbook fun _ => h.andThen h.read fun _ => h.andThen (h.lift _) fun _ => h.done _
  dsimp only
  split
  · apply h.andThen (h.reserve _)
    intro _
    apply h.andThen (h.position _ _)
    intro _
    exact h.andThen (h.lift _) fun _ => hrest
  · exact hrest

theorem permits_repaying (hu : named user) (asset : Name) (amount : Int) {mode : RateMode}
    (hmode : mode = .stable → loans) : P (p.repaying asset amount mode user) := by
  have hburn (paid : Int) :
      (burnBooking mode user paid p.clock).Allowed p.clock named loans := by
    cases mode with
    | stable => exact ⟨hmode rfl, hu, rfl⟩
    | floating => exact hu
  have hbook (paid : Int) : P (bookRepayment asset paid mode user p.clock) := by
    unfold bookRepayment
    apply h.andThen (h.accrue _)
    intro _
    apply h.andThen (h.booking _ _ (hburn paid))
    intro _
    exact h.andThen (h.money _ _) fun _ => h.accrue _
  unfold repaying
  apply h.andThen h.read
  intro _
  apply h.andThen (h.lift _)
  intro paid
  exact h.andThen (hbook paid) fun _ => h.done _

theorem permits_switchingCollateral (hu : named user) (asset : Name) (enabled : Bool) :
    P (p.switchingCollateral user asset enabled) := by
  unfold switchingCollateral
  apply h.andThen h.read
  intro _
  apply h.andThen (h.lift _)
  intro _
  apply h.andThen (h.switch _ _ hu)
  intro _
  dsimp only
  split
  · exact h.andThen h.read fun _ => h.andThen (h.lift _) fun _ => h.done _
  · exact h.done _

theorem permits_switchingMargin (hu : named user) (enabled : Bool) :
    P (p.switchingMargin user enabled) := by
  unfold switchingMargin
  apply h.andThen h.read
  intro _
  apply h.andThen (h.lift _)
  intro _
  exact h.andThen (h.switchMargin _ hu) fun _ => h.done _

theorem permits_liquidating (hloans : loans) {c : LiquidationCall} (hb : named c.borrower)
    (hl : ∀ name, c.liquidator.named = .ok name → named name) : P (p.liquidating c) := by
  unfold liquidating
  apply h.andThen (h.lift _)
  intro _
  exact h.andThen (h.liquidate hloans _ _ hb hl) fun _ => h.done _

theorem permits_settleMargin (hloans : loans) (counterparty : Counterparty) {m : MarginRequest}
    (hb : named m.borrower) : P (p.settleMargin counterparty m) := by
  unfold settleMargin
  apply h.andThen (h.lift _)
  intro _
  apply h.andThen (h.liquidateMargin hloans _ _ (m := m.routed p.params.receiverAccount) hb)
  intro _
  exact h.andThen (h.lift _) fun _ => h.done _

end Permits

variable {p : Pool}

/-- What is true of all work on the accounts that an operation names is true of the operation. -/
theorem permits_transaction {P : {α : Type} → LedgerWork α → Prop} {named : Key → Prop}
    (h : Permits P p.clock named True) {op : Operation} {work : LedgerWork (Receipt Outcome)}
    (htx : p.transaction? op = some work) (hnamed : ∀ v ∈ op.accounts, named v) : P work := by
  cases op <;> simp only [transaction?, Option.some.injEq, reduceCtorEq] at htx <;> subst htx <;>
    simp only [Operation.accounts, List.mem_singleton, forall_eq] at hnamed
  case deposit => exact h.map _ (permits_depositing h hnamed _ _)
  case withdraw => exact h.map _ (permits_withdrawing h hnamed _ _ _)
  case borrow =>
    apply h.andThen (h.lift _)
    intro _
    exact h.map _ (permits_borrowing h hnamed _ _ fun _ => trivial)
  case repay =>
    apply h.andThen (h.lift _)
    intro _
    exact h.map _ (permits_repaying h hnamed _ _ fun _ => trivial)
  case setUsageAsCollateral => exact h.map _ (permits_switchingCollateral h hnamed _ _)
  case setUsingMargin => exact h.map _ (permits_switchingMargin h hnamed _)
  case liquidate call =>
    apply h.map
    apply permits_liquidating h trivial (hnamed _ List.mem_cons_self)
    intro name hname
    unfold Json.named at hname
    split at hname
    · rename_i hsome
      cases hname
      exact hnamed _ (List.mem_cons_of_mem _ (by simp [hsome]))
    · contradiction
  case liquidateMargin caller request =>
    have hsettle := permits_settleMargin h trivial p.settlement.submit (m := request) hnamed
    split
    · exact h.andThen (h.lift (.error _)) fun _ => h.map _ hsettle
    · exact h.map _ hsettle

theorem within_transaction {op : Operation} {work : LedgerWork (Receipt Outcome)}
    (h : p.transaction? op = some work) : Within True work :=
  permits_transaction (permits_within True p.clock) h fun _ _ => trivial

theorem within_settleMargin {loans : Prop} (h : loans) (counterparty : Counterparty)
    (m : MarginRequest) : Within loans (p.settleMargin counterparty m) :=
  permits_settleMargin (permits_within loans p.clock) h counterparty trivial

/-! ## Outcomes -/

theorem transact_cases {loans : Prop} {α : Type} {work : LedgerWork (Receipt α)} (h : Within loans work) :
    (∃ receipt l, work p.ledger = .ok receipt l ∧ Steps loans p.ledger l ∧
      p.transact work = (p.commit l receipt, .ok receipt.value)) ∨
    ∃ f l, work p.ledger = .error f l ∧ Steps loans p.ledger l ∧
      p.transact work = (p, .error f) := by
  have hsteps := h p.ledger
  unfold outcome at hsteps
  unfold transact atomically
  cases hw : work p.ledger with
  | ok receipt l =>
    rw [hw] at hsteps
    exact .inl ⟨receipt, l, rfl, hsteps, rfl⟩
  | error f l =>
    rw [hw] at hsteps
    refine .inr ⟨f, l, rfl, hsteps, ?_⟩
    simp only [hsteps.extends.restore]

theorem transact_answer {α : Type} (work : LedgerWork (Receipt α)) (f : α → Outcome) :
    (p.transact work).answer f = p.transact ((·.answer f) <$> work) := by
  show _ = p.transact (EStateM.map _ work)
  unfold transact atomically EStateM.map
  cases work p.ledger <;> rfl

theorem transact_error {α : Type} {work : LedgerWork (Receipt α)} {f : Fault}
    (h : work p.ledger = .error f p.ledger) : p.transact work = (p, .error f) := by
  unfold transact atomically
  simp only [h, (Extends.refl p.ledger).restore]

theorem withMode_eq {asset : Name} {number : Int} {α : Type}
    {work : RateMode → LedgerWork (Receipt α)} {attempt : RateMode → Attempt α}
    (h : ∀ mode, attempt mode = p.transact (work mode)) :
    p.withMode asset number attempt = p.transact (do
      let mode ← p.requireMode asset number
      work mode) := by
  unfold withMode
  cases hm : p.requireMode asset number with
  | ok mode => exact h mode
  | error f => exact (transact_error rfl).symm

theorem perform_transaction {op : Operation} {work : LedgerWork (Receipt Outcome)}
    (h : p.transaction? op = some work) : p.perform op = p.transact work := by
  cases op <;> simp only [transaction?, Option.some.injEq, reduceCtorEq] at h <;> subst h
  case borrow => exact withMode_eq fun _ => transact_answer _ _
  case repay => exact withMode_eq fun _ => transact_answer _ _
  case liquidateMargin caller request =>
    unfold perform liquidateMargin liquidateMarginWith
    by_cases hc : caller ≠ .text p.params.settlementCounterparty
    · simp only [if_pos hc]
      exact (transact_error rfl).symm
    · simp only [if_neg hc]
      exact transact_answer _ _
  all_goals exact transact_answer _ _

/-! ## Commits -/

theorem creditTreasuryIn_steps {loans : Prop} (treasury : Key) (l : Ledger) (a : Key) :
    Steps loans l (creditTreasuryIn treasury l a) := by
  unfold creditTreasuryIn
  split
  · exact .refl
  · rename_i r hr
    split
    · exact .refl
    · exact .single (.credit hr treasury)

theorem creditTreasury_steps {loans : Prop} (treasury : Key) (l : Ledger) :
    Steps loans l (creditTreasury treasury l) := by
  unfold creditTreasury
  generalize l.reserves.keys = keys
  induction keys generalizing l with
  | nil => exact .refl
  | cons a rest ih => exact (creditTreasuryIn_steps treasury l a).trans (ih _)

theorem reserve?_creditTreasuryIn (treasury : Key) (l : Ledger) (a b : Key) :
    (creditTreasuryIn treasury l a).reserve? b =
      if b = a then (l.reserve? a).map fun r => { r with accruedToTreasury := 0 }
      else l.reserve? b := by
  unfold creditTreasuryIn
  split
  · rename_i hr
    rw [hr]
    split
    · rename_i hb
      rw [hb, hr]
      rfl
    · rfl
  · rename_i r hr
    rw [hr]
    split
    · rename_i hzero
      split
      · rename_i hb
        rw [hb, hr, Option.map_some, ← hzero]
      · rfl
    · rw [reserve?_setReserve]
      rfl

theorem reserve?_creditTreasury (treasury : Key) (l : Ledger) (b : Key) :
    (creditTreasury treasury l).reserve? b =
      (l.reserve? b).map fun r => { r with accruedToTreasury := 0 } := by
  have hfold : ∀ (keys : List Key) (l : Ledger),
      (keys.foldl (creditTreasuryIn treasury) l).reserve? b =
        if b ∈ keys then (l.reserve? b).map fun r => { r with accruedToTreasury := 0 }
        else l.reserve? b := by
    intro keys
    induction keys with
    | nil => simp
    | cons k rest ih =>
      intro l
      rw [List.foldl_cons, ih, reserve?_creditTreasuryIn]
      by_cases hk : b = k
      · subst hk
        simp [Option.map_map, Function.comp_def]
      · simp [hk]
  unfold creditTreasury
  rw [hfold]
  split
  · rfl
  · rename_i hnone
    have hnone : l.reserves.get? b = none := Entries.find?_eq_none_iff.2 hnone
    rw [Ledger.reserve?, hnone]
    rfl

theorem creditTreasury_settled (treasury : Key) (l : Ledger) {a : Key} {r : Reserve}
    (hr : (creditTreasury treasury l).reserve? a = some r) : r.accruedToTreasury = 0 := by
  rw [reserve?_creditTreasury] at hr
  obtain ⟨_, _, rfl⟩ := Option.map_eq_some_iff.1 hr
  rfl

end MoneyMarket.Pool
