import MoneyMarket.Proofs.Pool.Transaction

/-!
# What a pool can become

An operation leaves the ledger, commits what was reached by steps, sets flags or the strategy of one
reserve, or lists an empty reserve. What all of these preserve holds of every pool that a new one
can become.
-/

namespace MoneyMarket

open MoneyMarket.Reserve

def Reserve.Edited (r s : Reserve) : Prop :=
  s = { r with active := s.active, frozen := s.frozen, paused := s.paused, strategy := s.strategy }

structure Reserve.Listed (asset : Name) (r : Reserve) : Prop where
  asset : r.asset = asset
  scaledTotalSupply : r.scaledTotalSupply = 0
  accruedToTreasury : r.accruedToTreasury = 0
  scaledVariableDebt : r.scaledVariableDebt = 0
  loan : r.loan = {}

namespace Ledger

/-- One operation's change of the ledger. Stable debt changes only where `loans` says so. -/
inductive Evolves (loans : Prop) : Ledger → Ledger → Prop
  | same {l : Ledger} : Evolves loans l l
  | commit {l m : Ledger} (h : Steps loans l m) (treasury : Key) :
      Evolves loans l (Pool.creditTreasury treasury m)
  | edit {l : Ledger} {a : Key} {r s : Reserve} (hr : l.reserve? a = some r) (h : Edited r s) :
      Evolves loans l (l.setReserve a s)
  | list {l : Ledger} {asset : Name} {r : Reserve} (hnew : l.reserve? asset = none)
      (h : Listed asset r) : Evolves loans l (l.setReserve asset r)

theorem Evolves.extends {loans : Prop} {l m : Ledger} (h : Evolves loans l m) : Extends l m := by
  cases h with
  | same => exact .refl l
  | @commit n h treasury =>
    have hpaid : Steps loans n _ := Pool.creditTreasury_steps treasury n
    exact h.extends.trans hpaid.extends
  | edit | list => exact extends_setReserve _ _ _

theorem reserve_ok_iff {l : Ledger} {asset : Name} {r : Reserve} :
    l.reserve asset = .ok r ↔ l.reserve? asset = some r := by
  unfold reserve
  cases l.reserve? asset with
  | none => exact ⟨nofun, nofun⟩
  | some s => exact ⟨fun h => by cases h; rfl, fun h => by cases h; rfl⟩

end Ledger

/-! ## Listing -/

namespace Reserve

variable {r s : Reserve} {now : Int}

theorem accrue_accruedToTreasury (hnow : r.lastUpdateTimestamp = now)
    (h : r.accrue now = .ok s) : s.accruedToTreasury = r.accruedToTreasury := by
  obtain ⟨r₁, r₂, r₃, r₄, -, h₁, h₂, h₃, h₄, rfl⟩ := accrue_stages h
  have hold : ¬ r.lastUpdateTimestamp < now := by omega
  rw [growLiquidityIndex, if_neg fun hc => hold hc.1] at h₁
  cases h₁
  rw [growDebtIndex, if_neg fun hc => hold hc.1] at h₂
  cases h₂
  rw [creditTreasury, if_neg fun hc => hold hc.1] at h₃
  cases h₃
  simp only [deriveRates, bind_ok_iff, pure_ok_iff] at h₄
  obtain ⟨_, _, rfl⟩ := h₄
  rfl

end Reserve

namespace Pool

open MoneyMarket.Ledger

variable {loans : Prop} {p q : Pool}

structure Onward (loans : Prop) (p q : Pool) : Prop where
  ledger : Evolves loans p.ledger q.ledger
  clock : p.clock ≤ q.clock

theorem Onward.refl (p : Pool) : Onward loans p p := ⟨.same, Int.le_refl _⟩

theorem initReserve_ok {config : ReserveConfig} {strategy : RateStrategy}
    (h : p.initReserve config strategy = .ok q) :
    p.ledger.reserve? config.symbol = none ∧ ∃ r : Reserve,
      ({ asset := config.symbol, config, strategy, lastUpdateTimestamp := p.clock } :
        Reserve).accrue p.clock = .ok r ∧
      q = { p with ledger := p.ledger.setReserve config.symbol r } := by
  unfold initReserve at h
  dsimp only at h
  split at h
  · simp only [bind_ok_iff] at h
    obtain ⟨_, h, _⟩ := h
    exact absurd h throw_ne_ok
  · rename_i hc
    split at h
    · simp only [bind_ok_iff] at h
      obtain ⟨_, h, _⟩ := h
      exact absurd h throw_ne_ok
    · simp only [bind_ok_iff, pure_ok_iff] at h
      obtain ⟨r, hr, rfl⟩ := h
      rw [Table.contains, Option.not_isSome_iff_eq_none] at hc
      exact ⟨hc, r, hr, rfl⟩

theorem initReserve_onward {config : ReserveConfig} {strategy : RateStrategy}
    (h : p.initReserve config strategy = .ok q) : Onward loans p q := by
  obtain ⟨hnew, r, hr, rfl⟩ := initReserve_ok h
  have ha := accrue_accrued hr
  have hcredit := accrue_accruedToTreasury rfl hr
  have hsupply := ha.supply
  refine ⟨.list hnew ⟨ha.asset, ?_, hcredit, ha.scaledVariableDebt, ha.loan⟩, Int.le_refl _⟩
  rw [hcredit] at hsupply
  simpa using hsupply

theorem modifyReserve_ok {asset : Name} {f : Reserve → Except Fault Reserve}
    (h : p.modifyReserve asset f = .ok q) :
    ∃ r s, p.ledger.reserve? asset = some r ∧ f r = .ok s ∧
      q = { p with ledger := p.ledger.setReserve asset s } := by
  simp only [modifyReserve, bind_ok_iff, reserve_ok_iff, pure_ok_iff] at h
  obtain ⟨r, hr, s, hs, rfl⟩ := h
  exact ⟨r, s, hr, hs, rfl⟩

theorem change_cases {α : Type} {result : Except Fault (Pool × α)} {I : Pool → Prop}
    (hp : I p) (h : ∀ q a, result = .ok (q, a) → I q) : I (p.change result).1 := by
  unfold change
  split
  · exact h _ _ rfl
  · exact hp

theorem changeOnly_cases {result : Except Fault Pool} {I : Pool → Prop}
    (hp : I p) (h : ∀ q, result = .ok q → I q) : I (p.changeOnly result).1 := by
  refine change_cases hp ?_
  intro q _ hq
  cases result with
  | ok q' =>
    cases hq
    exact h q rfl
  | error f => cases hq

theorem transaction_onward {op : Operation} {work : LedgerWork (Receipt Outcome)}
    (h : p.transaction? op = some work) (hw : LedgerWork.Within loans work) :
    Onward loans p (p.after op) := by
  unfold after
  rw [perform_transaction h]
  rcases transact_cases (p := p) hw with ⟨_, l, _, hl, ht⟩ | ⟨_, _, _, _, ht⟩
  · rw [ht]
    exact ⟨.commit hl _, Int.le_refl _⟩
  · rw [ht]
    exact .refl p

/-- What each administrative operation does to a pool. A strategy is only changed by its own setting,
and a reserve is only listed as it was asked for. -/
inductive Administers (p : Pool) : Operation → Pool → Prop
  | unchanged {op : Operation} : Administers p op p
  | set {op : Operation} {prices : PriceBoard} {clock : Int} {paused offline : Bool}
      (hclock : p.clock ≤ clock) :
      Administers p op
        { p with prices, clock, paused, settlement := { p.settlement with offline } }
  | reported {user : Name} {report : MarginReport} {sequence : Int} {feed : MarginFeed} :
      Administers p (.pushMargin user report sequence) { p with feed }
  | flagged {op : Operation} {a : Key} {r : Reserve} (hr : p.ledger.reserve? a = some r)
      (active frozen paused : Bool) :
      Administers p op
        { p with ledger := p.ledger.setReserve a { r with active, frozen, paused } }
  | governed {asset : Name} {r : Reserve} {setting : GovernedSetting} {caller : String}
      {value : Int} {strategy : RateStrategy} (hr : p.ledger.reserve? asset = some r)
      (hset : r.strategy.set setting caller value = .ok strategy) :
      Administers p (.govern asset setting caller value)
        { p with ledger := p.ledger.setReserve asset { r with strategy } }
  | listed {config : ReserveConfig} {strategy : RateStrategy} {q : Pool}
      (h : p.initReserve config strategy = .ok q) : Administers p (.initReserve config strategy) q

theorem after_administers {op : Operation} (h : p.transaction? op = none) :
    Administers p op (p.after op) := by
  have timed {clock : Int} (hclock : p.clock ≤ clock) : Administers p op { p with clock } :=
    .set hclock
  cases op <;> simp only [transaction?, reduceCtorEq] at h
  case initReserve config strategy => exact changeOnly_cases .unchanged fun q hq => .listed hq
  case setReserveActive | setReserveFrozen | setReservePaused =>
    apply changeOnly_cases .unchanged
    intro q hq
    obtain ⟨r, s, hr, hs, rfl⟩ := modifyReserve_ok hq
    cases hs
    exact .flagged hr _ _ _
  case govern =>
    apply changeOnly_cases .unchanged
    intro q hq
    obtain ⟨r, s, hr, hs, rfl⟩ := modifyReserve_ok hq
    simp only [bind_ok_iff, pure_ok_iff] at hs
    obtain ⟨_, hset, rfl⟩ := hs
    exact .governed hr hset
  case setPaused | setOffline => exact .set (Int.le_refl _)
  case setTimestamp time =>
    apply changeOnly_cases .unchanged
    intro q hq
    unfold setTimestamp at hq
    split at hq <;> cases hq
    exact timed (Int.not_lt.1 ‹_›)
  case advanceTime seconds =>
    apply change_cases .unchanged
    intro q a hq
    unfold advanceTime at hq
    split at hq <;> cases hq
    have hnonneg : 0 ≤ seconds := Int.not_lt.1 ‹_›
    exact timed (Int.le_add_of_nonneg_right hnonneg)
  case setPrice asset price =>
    apply changeOnly_cases .unchanged
    intro q hq
    simp only [setPrice, bind_ok_iff, pure_ok_iff] at hq
    obtain ⟨_, _, rfl⟩ := hq
    exact .set (Int.le_refl _)
  case pushMargin user report sequence =>
    apply change_cases .unchanged
    intro q a hq
    obtain ⟨_, hr, hq⟩ := map_ok_iff.1 hq
    simp only [pushMargin, bind_ok_iff, pure_ok_iff] at hr
    obtain ⟨_, _, rfl⟩ := hr
    cases hq
    exact .reported

inductive Administered (p : Pool) : Pool → Prop
  | same {q : Pool} (hledger : q.ledger = p.ledger) (hclock : p.clock ≤ q.clock) : Administered p q
  | edited {a : Key} {r s : Reserve} (hr : p.ledger.reserve? a = some r) (h : Edited r s) :
      Administered p { p with ledger := p.ledger.setReserve a s }
  | listed {config : ReserveConfig} {strategy : RateStrategy} {q : Pool}
      (h : p.initReserve config strategy = .ok q) : Administered p q

theorem Administered.onward (h : Administered p q) : Onward loans p q := by
  cases h with
  | same hledger hclock => exact ⟨hledger ▸ .same, hclock⟩
  | edited hr h => exact ⟨.edit hr h, Int.le_refl _⟩
  | listed h => exact initReserve_onward h

theorem Administers.administered {op : Operation} (h : Administers p op q) : Administered p q := by
  cases h with
  | unchanged => exact .same rfl (Int.le_refl _)
  | set hclock => exact .same rfl hclock
  | reported => exact .same rfl (Int.le_refl _)
  | flagged hr | governed hr => exact .edited hr rfl
  | listed h => exact .listed h

theorem after_administered {op : Operation} (h : p.transaction? op = none) :
    Administered p (p.after op) := (after_administers h).administered

theorem after_onward (p : Pool) (op : Operation) : Onward True p (p.after op) := by
  cases h : p.transaction? op with
  | some work => exact transaction_onward h (within_transaction h)
  | none => exact (after_administered h).onward

theorem clock_le_run (p : Pool) (ops : List Operation) : p.clock ≤ (run p ops).clock := by
  induction ops generalizing p with
  | nil => exact Int.le_refl _
  | cons op rest ih => exact Int.le_trans (after_onward p op).clock (ih _)

/-- What holds of new pools and is kept by every operation holds of all pools that can be. -/
theorem Attainable.induct {I : Pool → Prop} (hnew : ∀ params clock, I { params, clock })
    (hstep : ∀ p op, I p → I (p.after op)) (h : Attainable p) : I p := by
  obtain ⟨params, clock, ops, rfl⟩ := h
  suffices ∀ q, I q → I (run q ops) from this _ (hnew params clock)
  induction ops with
  | nil => exact fun q hq => hq
  | cons op rest ih => exact fun q hq => ih _ (hstep q op hq)

/-! ## Restricted runs -/

/-- The pools that a new pool can become by `allowed` operations. -/
def ReachableBy (allowed : Operation → Prop) (p : Pool) : Prop :=
  ∃ (params : PoolParams) (clock : Int) (ops : List Operation),
    (∀ op ∈ ops, allowed op) ∧ p = run { params, clock } ops

section Restricted

variable {allowed : Operation → Prop}

theorem ReachableBy.attainable (h : ReachableBy allowed p) : Attainable p := by
  obtain ⟨params, clock, ops, _, rfl⟩ := h
  exact ⟨params, clock, ops, rfl⟩

theorem ReachableBy.after (h : ReachableBy allowed p) {op : Operation} (hop : allowed op) :
    ReachableBy allowed (p.after op) := by
  obtain ⟨params, clock, ops, hops, rfl⟩ := h
  refine ⟨params, clock, ops ++ [op], ?_, (run_append _ ops [op]).symm⟩
  intro o ho
  rcases List.mem_append.1 ho with ho | ho
  · exact hops o ho
  · rwa [List.mem_singleton.1 ho]

theorem ReachableBy.induct {I : Pool → Prop} (hnew : ∀ params clock, I { params, clock })
    (hstep : ∀ p op, ReachableBy allowed p → allowed op → I p → I (p.after op))
    (h : ReachableBy allowed p) : I p := by
  obtain ⟨params, clock, ops, hops, rfl⟩ := h
  have hfresh : ReachableBy allowed { params, clock } :=
    ⟨params, clock, [], List.forall_mem_nil _, rfl⟩
  suffices ∀ q, ReachableBy allowed q → I q → I (run q ops) from
    this { params, clock } hfresh (hnew params clock)
  induction ops with
  | nil => exact fun q _ hq => hq
  | cons op rest ih =>
    intro q hreach hq
    have hop := hops op List.mem_cons_self
    have hnext := hstep q op hreach hop hq
    show I (run (q.after op) rest)
    exact ih (fun o ho => hops o (List.mem_cons_of_mem _ ho)) _ (hreach.after hop) hnext

end Restricted

end Pool

end MoneyMarket
