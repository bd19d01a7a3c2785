import Mathlib.Algebra.Order.BigOperators.Group.List
import MoneyMarket.Proofs.Pool.Bystander
import MoneyMarket.Proofs.Pool.Journal
import MoneyMarket.Proofs.Pool.WholeTokens

/-!
# Debits of margin collateral

Only a margin liquidation that is done instructs the counterparty, once, and what it instructs was
due at that moment. The feed keeps a snapshot until the next report on its account, so each debit in
the meantime is held against the same figure.
-/

namespace MoneyMarket

open MoneyMarket.FixedPoint

/-! ## Reports -/

theorem MarginFeed.push_ok {f g : MarginFeed} {user : Name} {report : MarginReport} {sequence : Int}
    {stored : Bool} (h : f.push user report sequence = .ok (g, stored)) :
    ∃ snapshot, g = if stored then ⟨f.snapshots.set user snapshot⟩ else f := by
  simp only [push, bind_ok_iff] at h
  obtain ⟨snapshot, _, h⟩ := h
  refine ⟨snapshot, ?_⟩
  split at h <;> cases h <;> rfl

theorem MarginFeed.snapshot_set {f : MarginFeed} {user account : Key} {s : MarginSnapshot}
    (h : user ≠ account) : (MarginFeed.mk (f.snapshots.set user s)).snapshot account =
      f.snapshot account := by
  simp [snapshot, Ne.symm h]

namespace Pool

open MoneyMarket.Ledger MoneyMarket.LedgerWork

variable {p q : Pool} {op : Operation} {ops : List Operation} {account : Key}
variable {caller : Json} {request : MarginRequest} {i : DebitInstruction}

/-! ## One debit -/

/-- What was done in exchange for the instruction `i` was due, and all its figures are whole. -/
def Due (p : Pool) (caller : Json) (request : MarginRequest) (i : DebitInstruction) : Prop :=
  ∃ (result : LiquidationResult) (f : DebitFigures),
    (p.perform (.liquidateMargin caller request)).2 = .ok (.liquidated result) ∧
      result.instruction = some i ∧ result.debtRepaid = .whole f.repaid ∧
      f.Within p.ledger p.surroundings p.clock request.maxCollateral i

/-- A margin liquidation is done for the counterparty, which is instructed with `i`. -/
structure Debits (p : Pool) (caller : Json) (request : MarginRequest) (i : DebitInstruction) :
    Prop where
  authorised : caller = .text p.params.settlementCounterparty
  account : i.account = request.borrower
  asset : i.asset = request.collateralAsset
  destination : i.destination = p.params.receiverAccount
  debitable : p.ledger.Debitable p.surroundings p.clock i.account
  reference : i.asset.key = .text p.params.margin.referenceAsset →
    i.amount.le (.whole (p.feed.snapshot i.account).collateralValue)
  due : p.ledger.WholeTokens → p.Due caller request i

theorem settleMargin_debits {receipt : Receipt LiquidationResult} {m : Ledger}
    (h : p.settleMargin p.settlement.submit request p.ledger = .ok receipt m)
    (hanswer : (p.perform (.liquidateMargin (.text p.params.settlementCounterparty) request)).2 =
      .ok (.liquidated receipt.value)) :
    ∃ i, p.Debits (.text p.params.settlementCounterparty) request i ∧
      (receipt.settlement.getD p.settlement).instructions = p.settlement.instructions ++ [i] := by
  obtain ⟨result, settlement, hwork, hsubmit, rfl⟩ := settleMargin_completed h
  obtain ⟨hplan, _⟩ := liquidateMargin_completed hwork
  obtain ⟨hinstruction, hdebitable, hreference⟩ := planMarginLiquidation_debit hplan
  refine ⟨⟨request.borrower, request.collateralAsset, result.collateralSeized,
    p.params.receiverAccount⟩, ⟨rfl, rfl, rfl, rfl, hdebitable, hreference, ?_⟩, ?_⟩
  · intro hwhole
    obtain ⟨f, hrepaid, hwithin⟩ := planMarginLiquidation_figures hwhole hplan
    exact ⟨result, f, hanswer, hinstruction, hrepaid, hwithin⟩
  · rw [hinstruction] at hsubmit
    exact submit_instructions hsubmit

theorem transaction_instructions {work : LedgerWork (Receipt Outcome)} {receipt : Receipt Outcome}
    {m : Ledger} (htx : p.transaction? op = some work) (hw : work p.ledger = .ok receipt m)
    (hanswer : (p.perform op).2 = .ok receipt.value) :
    receipt.settlement = none ∨ ∃ caller request i, op = .liquidateMargin caller request ∧
      p.Debits caller request i ∧ (receipt.settlement.getD p.settlement).instructions =
        p.settlement.instructions ++ [i] := by
  cases transaction_completes htx hw with
  | deposit h =>
    obtain ⟨_, _, _, rfl⟩ := depositing_completed h
    exact .inl rfl
  | withdraw h =>
    obtain ⟨_, _, _, _, _, _, _, _, rfl⟩ := withdrawing_completed h
    exact .inl rfl
  | borrow h =>
    obtain ⟨_, _, _, _, rfl⟩ := borrowing_completed h
    exact .inl rfl
  | repay h =>
    obtain ⟨_, _, _, rfl⟩ := repaying_completed h
    exact .inl rfl
  | setUsageAsCollateral h =>
    obtain ⟨_, _, _, rfl⟩ := switchingCollateral_completed h
    exact .inl rfl
  | setUsingMargin h =>
    obtain ⟨_, _, rfl⟩ := switchingMargin_completed h
    exact .inl rfl
  | liquidate h =>
    obtain ⟨_, _, rfl⟩ := liquidating_completed h
    exact .inl rfl
  | liquidateMargin h =>
    obtain ⟨i, hdebits, hissued⟩ := settleMargin_debits h hanswer
    exact .inr ⟨_, _, i, rfl, hdebits, hissued⟩

theorem after_instructions (p : Pool) (op : Operation) :
    (p.after op).settlement.instructions = p.settlement.instructions ∨
      ∃ caller request i, op = .liquidateMargin caller request ∧ p.Debits caller request i ∧
        (p.after op).settlement.instructions = p.settlement.instructions ++ [i] := by
  cases htx : p.transaction? op with
  | none => exact .inl (record_administered htx).2
  | some work =>
    have hperform := perform_transaction htx
    unfold after
    rcases transact_cases (p := p) (within_transaction htx) with
      ⟨receipt, m, hw, _, ht⟩ | ⟨_, _, _, _, ht⟩
    · rw [ht] at hperform
      rw [hperform]
      have hanswer : (p.perform op).2 = .ok receipt.value := by rw [hperform]
      rcases transaction_instructions htx hw hanswer with hnone | hissued
      · left
        show (receipt.settlement.getD p.settlement).instructions = _
        rw [hnone, Option.getD_none]
      · exact .inr hissued
    · rw [hperform, ht]
      exact .inl rfl

/-! ## All debits -/

theorem run_instructions {k : Nat} (hk : p.settlement.instructions.length ≤ k)
    (h : (p.run ops).settlement.instructions[k]? = some i) :
    ∃ earlier caller request later, ops = earlier ++ .liquidateMargin caller request :: later ∧
      (p.run earlier).settlement.instructions.length = k ∧
      (p.run earlier).Debits caller request i := by
  induction ops using List.reverseRecOn with
  | nil =>
    rw [run_nil, List.getElem?_eq_none hk] at h
    cases h
  | append_singleton ops op ih =>
    rw [run_append] at h
    rcases after_instructions (p.run ops) op with hsame | ⟨caller, request, j, rfl, hdebits, hissued⟩
    · obtain ⟨earlier, caller, request, later, rfl, hlength, hdebits⟩ := ih (hsame ▸ h)
      exact ⟨earlier, caller, request, later ++ [op], by simp, hlength, hdebits⟩
    · rw [show ((p.run ops).run [.liquidateMargin caller request]).settlement.instructions = _ from
        hissued] at h
      rcases Nat.lt_trichotomy k (p.run ops).settlement.instructions.length with hlt | rfl | hgt
      · rw [List.getElem?_append_left hlt] at h
        obtain ⟨earlier, caller', request', later, rfl, hlength, hdebits⟩ := ih h
        exact ⟨earlier, caller', request', later ++ [.liquidateMargin caller request], by simp,
          hlength, hdebits⟩
      · rw [List.getElem?_concat_length, Option.some.injEq] at h
        exact ⟨ops, caller, request, [], rfl, rfl, h ▸ hdebits⟩
      · rw [List.getElem?_eq_none (by simp; omega)] at h
        cases h

/-- **Debits.** Among whole tokens the instructions on record are those that the events tell of, in
the same order. Each was issued by an operation of its own, for the counterparty, in exchange for some
debt of an account that had opted in and was not healthy, and within all limits. -/
theorem debits_match_events (params : PoolParams) (clock : Int) (ops : List Operation)
    (hwhole : (run { params, clock } ops).ledger.WholeTokens) :
    (run { params, clock } ops).settlement.instructions =
        (run { params, clock } ops).events.filterMap (·.content.debit?) ∧
      ∀ k i, (run { params, clock } ops).settlement.instructions[k]? = some i →
        ∃ earlier caller request later, ops = earlier ++ .liquidateMargin caller request :: later ∧
          (run { params, clock } earlier).settlement.instructions.length = k ∧
          (run { params, clock } earlier).Debits caller request i ∧
          (run { params, clock } earlier).Due caller request i := by
  constructor
  · exact (Attainable.journaled ⟨params, clock, ops, rfl⟩).instructed
  · intro k i hi
    obtain ⟨earlier, caller, request, later, rfl, hlength, hdebits⟩ :=
      run_instructions (Nat.zero_le k) hi
    rw [run_append] at hwhole
    exact ⟨earlier, caller, request, later, rfl, hlength, hdebits, hdebits.due (whole_of_run hwhole)⟩

def refusedTwice : List Operation :=
  audited.dropLast ++
    [.liquidateMargin (.text "dan") marginCall, .setOffline true,
      .liquidateMargin (.text "fundlock") marginCall, .setOffline false,
      .liquidateMargin (.text "fundlock") marginCall]

theorem debit_after_refusals :
    let i : DebitInstruction := ⟨.text "ana", .text "WETH", .whole 42, "receiver"⟩
    (run {} refusedTwice).ledger.WholeTokens ∧
      (run {} refusedTwice).settlement.instructions = [i] ∧
      (run {} refusedTwice).events.filterMap (·.content.debit?) = [i] ∧
      ∃ earlier caller request later,
        refusedTwice = earlier ++ .liquidateMargin caller request :: later ∧
          (run {} earlier).settlement.instructions.length = 0 ∧
          (run {} earlier).Debits caller request i ∧ (run {} earlier).Due caller request i := by
  intro i
  have hwhole : (run {} refusedTwice).ledger.WholeTokens := by decide +kernel
  obtain ⟨hsame, hissued⟩ := debits_match_events {} 0 refusedTwice hwhole
  have hinstructions : (run {} refusedTwice).settlement.instructions = [i] := by decide +kernel
  rw [hinstructions] at hsame hissued
  exact ⟨hwhole, hinstructions, hsame.symm, hissued 0 i rfl⟩

/-- Margin collateral beside collateral of which a part counts in too large units for any number. -/
def marginBeyondNumbers : List Operation :=
  [.initReserve .dai (.kinked .stableTwo),
    .initReserve .weth (.kinked .weth),
    .initReserve { ReserveConfig.dai with symbol := .text "Z", decimals := -300 }
      (.kinked .stableTwo),
    .setPrice (.text "DAI") (.whole wad),
    .setPrice (.text "WETH") (.whole wad),
    .setPrice (.text "Z") (.whole wad),
    .deposit (.text "WETH") 10000 (.text "carol"),
    .deposit (.text "DAI") 1000 (.text "ana"),
    .borrow (.text "WETH") 700 2 (.text "ana"),
    .deposit (.text "Z") wad (.text "ana"),
    .pushMargin (.text "ana") { collateral := .whole 100 } 1,
    .setUsingMargin (.text "ana") true]

/-- An account can be debited whose health factor is not below one, but no number at all. -/
theorem debit_without_number :
    let p := run {} marginBeyondNumbers
    let op := Operation.liquidateMargin (.text "fundlock") marginCall
    Attainable p ∧ (p.perform op).2.toOption.isSome ∧
      (p.after op).settlement.instructions = p.settlement.instructions ++
        [⟨.text "ana", .text "WETH", .whole 42, "receiver"⟩] ∧
      (p.healthFactor? (.text "ana")).isSome ∧
      (p.healthFactor? (.text "ana")).any (·.lt (.whole wad)) = false := by
  refine ⟨⟨{}, 0, marginBeyondNumbers, rfl⟩, ?_, ?_, ?_, ?_⟩ <;> decide +kernel

/-! ## Between two reports -/

def reports (account : Key) (p : Pool) (op : Operation) : Bool :=
  match op, (p.perform op).2 with
  | .pushMargin user _ _, .ok (.stored true) => user.key = account
  | _, _ => false

def Unreported (account : Key) (p : Pool) : List Operation → Prop
  | [] => True
  | op :: rest => p.reports account op = false ∧ (p.after op).Unreported account rest

instance decidableUnreported (account : Key) (p : Pool) :
    (ops : List Operation) → Decidable (p.Unreported account ops)
  | [] => .isTrue trivial
  | _ :: rest => @instDecidableAnd _ _ _ (decidableUnreported account (p.after _) rest)

theorem after_params (p : Pool) (op : Operation) : (p.after op).params = p.params := by
  cases htx : p.transaction? op with
  | some work => exact params_after_transaction htx
  | none =>
    rcases after_silent htx with hsilent | ⟨user, report, sequence, rfl⟩
    · exact hsilent.params
    · rw [after_pushMargin]

theorem after_snapshot (h : p.reports account op = false) :
    (p.after op).feed.snapshot account = p.feed.snapshot account := by
  cases htx : p.transaction? op with
  | some work =>
    rcases after_transaction htx with hsame | ⟨_, _, _, _, hcommit⟩
    · rw [hsame]
    · rw [hcommit]
      rfl
  | none =>
    rcases after_silent htx with hsilent | ⟨user, report, sequence, rfl⟩
    · rw [hsilent.feed]
    · rw [after_pushMargin]
      cases hfeed : p.feed.push user report sequence with
      | error f => rfl
      | ok result =>
        obtain ⟨g, stored⟩ := result
        obtain ⟨snapshot, rfl⟩ := MarginFeed.push_ok hfeed
        cases stored with
        | false => rfl
        | true =>
          have hother : user.key ≠ account := by
            have hstored : (p.perform (.pushMargin user report sequence)).2 = .ok (.stored true) := by
              simp only [perform, pushMargin, hfeed]
              rfl
            simpa [reports, hstored] using h
          exact MarginFeed.snapshot_set hother

def referenceDebits (p : Pool) (account : Key) (issued : List DebitInstruction) :
    List DebitInstruction :=
  issued.filter fun i =>
    i.account.key = account ∧ i.asset.key = .text p.params.margin.referenceAsset

structure Within (p : Pool) (account : Key) (q : Pool) (issued : List DebitInstruction) : Prop where
  instructions : q.settlement.instructions = p.settlement.instructions ++ issued
  params : q.params = p.params
  snapshot : q.feed.snapshot account = p.feed.snapshot account
  each : ∀ i ∈ p.referenceDebits account issued,
    i.amount.le (.whole (p.feed.snapshot account).collateralValue)

theorem after_within (h : p.reports account op = false) :
    ∃ issued, Within p account (p.after op) issued := by
  have hparams := after_params p op
  have hsnapshot := after_snapshot h
  rcases after_instructions p op with hsame | ⟨_, _, i, _, hdebits, hissued⟩
  · exact ⟨[], by rw [hsame, List.append_nil], hparams, hsnapshot, nofun⟩
  · refine ⟨[i], hissued, hparams, hsnapshot, ?_⟩
    intro j hj
    simp only [referenceDebits, List.mem_filter, List.mem_singleton, decide_eq_true_eq] at hj
    obtain ⟨rfl, rfl, hasset⟩ := hj
    exact hdebits.reference hasset

theorem Within.trans {r : Pool} {issued more : List DebitInstruction}
    (h : Within p account q issued) (h' : Within q account r more) :
    Within p account r (issued ++ more) := by
  refine ⟨?_, h'.params.trans h.params, h'.snapshot.trans h.snapshot, ?_⟩
  · rw [h'.instructions, h.instructions, List.append_assoc]
  · intro i hi
    rw [referenceDebits, List.filter_append, List.mem_append] at hi
    rcases hi with hi | hi
    · exact h.each i hi
    · rw [← h.snapshot]
      apply h'.each i
      rwa [referenceDebits, h.params]

theorem run_within (h : p.Unreported account ops) :
    ∃ issued, Within p account (p.run ops) issued := by
  induction ops generalizing p with
  | nil => exact ⟨[], (List.append_nil _).symm, rfl, rfl, nofun⟩
  | cons op rest ih =>
    obtain ⟨issued, hfirst⟩ := after_within h.1
    obtain ⟨more, hrest⟩ := ih h.2
    exact ⟨issued ++ more, hfirst.trans hrest⟩

/-- **Between two reports.** Each debit of an account in the reference asset is at most the collateral
value of the snapshot in force, so any number of them comes to at most that many times the value. -/
theorem debits_between_reports (h : p.Unreported account ops) :
    (p.run ops).feed.snapshot account = p.feed.snapshot account ∧
    ∃ issued, (p.run ops).settlement.instructions = p.settlement.instructions ++ issued ∧
      (∀ i ∈ p.referenceDebits account issued,
        i.amount.le (.whole (p.feed.snapshot account).collateralValue)) ∧
      ((p.referenceDebits account issued).map (·.amount.value)).sum ≤
        (p.referenceDebits account issued).length * (p.feed.snapshot account).collateralValue := by
  obtain ⟨issued, hwithin⟩ := run_within h
  refine ⟨hwithin.snapshot, issued, hwithin.instructions, hwithin.each, ?_⟩
  have hnonneg : 0 ≤ (p.feed.snapshot account).collateralValue := Int.le_max_left _ _
  have hsum := List.sum_le_card_nsmul ((p.referenceDebits account issued).map (·.amount.value))
    ((p.feed.snapshot account).collateralValue : ℚ) (by
      intro x hx
      obtain ⟨i, hi, rfl⟩ := List.mem_map.1 hx
      exact Quantity.value_le (hwithin.each i hi) hnonneg)
  simpa using hsum

/-- A debt that outgrows its collateral by so much that two parts of it may be repaid in turn. -/
def outgrown : List Operation :=
  [.initReserve .dai (.kinked .stableTwo),
    .initReserve .weth (.kinked .weth),
    .setPrice (.text "DAI") (.whole wad),
    .setPrice (.text "WETH") (.whole wad),
    .deposit (.text "WETH") 10000 (.text "carol"),
    .deposit (.text "DAI") 1000 (.text "ana"),
    .setUsingMargin (.text "ana") true,
    .pushMargin (.text "ana") { collateral := .whole 100 } 1,
    .borrow (.text "WETH") 800 2 (.text "ana"),
    .setPrice (.text "WETH") (.whole 1400000000000000000),
    .pushMargin (.text "ana") { collateral := .whole 100 } 2]

def callForAll : Operation :=
  .liquidateMargin (.text "fundlock") {
    borrower := .text "ana", debtToCover := 800, debtAsset := .text "WETH"
    collateralAsset := .text "WETH", maxCollateral := 1000 }

theorem debits_of_two_calls :
    let p := run {} outgrown
    let i : DebitInstruction := ⟨.text "ana", .text "WETH", .whole 100, "receiver"⟩
    p.Unreported (.text "ana") [callForAll, callForAll] ∧
      (p.run [callForAll, callForAll]).settlement.instructions =
        p.settlement.instructions ++ [i, i] ∧
      (([i, i] : List DebitInstruction).map (·.amount.value)).sum ≤ 2 * 100 := by
  intro p i
  have hunreported : p.Unreported (.text "ana") [callForAll, callForAll] := by decide +kernel
  have hdebited : (p.run [callForAll, callForAll]).settlement.instructions =
    p.settlement.instructions ++ [i, i] := by decide +kernel
  obtain ⟨-, issued, hissued, -, hsum⟩ := debits_between_reports hunreported
  obtain rfl : [i, i] = issued := List.append_cancel_left (hdebited.symm.trans hissued)
  have hvalue : (p.feed.snapshot (.text "ana")).collateralValue = 100 := by decide +kernel
  have hboth : p.referenceDebits (.text "ana") [i, i] = [i, i] := by decide +kernel
  rw [hvalue, hboth] at hsum
  exact ⟨hunreported, hdebited, by simpa using hsum⟩

/-- All margin collateral is debited twice between two reports. -/
theorem debited_twice_between_reports :
    let p := run {} outgrown
    let i : DebitInstruction := ⟨.text "ana", .text "WETH", .whole 100, "receiver"⟩
    let report := Operation.pushMargin (.text "ana") { collateral := .whole 100 } 3
    (run {} outgrown.dropLast).reports (.text "ana") (outgrown.getLast (by decide)) ∧
      (p.feed.snapshot (.text "ana")).collateralValue = 100 ∧
      p.Unreported (.text "ana") [callForAll, callForAll] ∧
      (p.run [callForAll, callForAll]).settlement.instructions =
        p.settlement.instructions ++ [i, i] ∧
      (p.referenceDebits (.text "ana") [i, i]).length = 2 ∧
      (p.run [callForAll, callForAll]).reports (.text "ana") report := by
  refine ⟨?_, ?_, ?_, ?_, ?_, ?_⟩ <;> decide +kernel

end Pool

end MoneyMarket
