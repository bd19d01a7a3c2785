import MoneyMarket.Proofs.Liquidation.Described
import MoneyMarket.Proofs.Pool.Debits
import MoneyMarket.Proofs.Pool.Orderly

/-!
# What operations stop at

With parameters that are not negative a pool keeps its ledger in order. Then no operation on
accounts meets a negative operand, a time that lies ahead, a missing reserve or a division by zero:
it is done, or it is refused, or the counterparty does not take its instruction. A refusal is told
as such unless it would have to tell a figure that is too long to be written.
-/

namespace MoneyMarket.Pool

open MoneyMarket.Ledger MoneyMarket.LedgerWork MoneyMarket.Reserve

variable {p q : Pool} {op : Operation} {l : Ledger} {now : Int}

/-! ## Faults -/

instance (f : Fault) (cause : Invalid) : Decidable (f = .invalid cause) :=
  match f with
  | .invalid cause' => decidable_of_iff (cause' = cause) ⟨congrArg _, Fault.invalid.inj⟩
  | .refused _ | .counterparty _ | .missingReserve _ | .notGoverned | .nameless | .tooLarge
  | .divisionByZero | .notBookable => .isFalse nofun

/-- A refusal, told as it is or as a figure that is too long, or the counterparty's fault. -/
def Foreseen (counterparty : Counterparty) (f : Fault) : Prop :=
  (∃ cause, f = .refused cause ∧ (f.worded = f ∨
    f.worded = .invalid .figureTooLong ∧ ∃ figure ∈ cause.figures, figure.isTooLong = true)) ∨
  ∃ i, counterparty i = .error f

theorem foreseen_refused (counterparty : Counterparty) (cause : Refusal) :
    Foreseen counterparty (.refused cause) := by
  refine .inl ⟨cause, rfl, ?_⟩
  by_cases hlong : cause.figures.any Quantity.isTooLong = true
  · exact .inr ⟨if_pos hlong, List.any_eq_true.1 hlong⟩
  · exact .inl (if_neg hlong)

/-- An operation on accounts with a mode that there is, and with a liquidator who has a name. -/
def Operation.Proper : Operation → Prop
  | .deposit _ _ _ | .withdraw _ _ _ _ => True
  | .borrow _ _ number _ | .repay _ _ number _ => number = 1 ∨ number = 2
  | .setUsageAsCollateral _ _ _ | .setUsingMargin _ _ => True
  | .liquidate call => ∃ name, call.liquidator.named = .ok name
  | .liquidateMargin _ _ => True
  | _ => False

theorem Operation.Proper.transaction (h : op.Proper) : ∃ work, p.transaction? op = some work := by
  cases op <;> first | exact ⟨_, rfl⟩ | exact h.elim

/-- What an operation may stop at. One that is not proper may stop at anything. -/
def Expected (p : Pool) (op : Operation) (f : Fault) : Prop :=
  Foreseen p.settlement.submit f ∨ ¬ op.Proper

theorem requireMode_answers {faults : Fault → Prop} (hrefused : ∀ cause, faults (.refused cause))
    {number : Int} (hmode : ¬ (number = 1 ∨ number = 2) → ∀ f, faults f) (p : Pool) (asset : Name) :
    Answers faults (fun _ => True) (p.requireMode asset number) := by
  unfold requireMode
  apply (reserve_answers hrefused p.ledger asset).andThen
  intro _ _
  unfold RateMode.ofNumber?
  by_cases hone : number = 1
  · rw [if_pos hone]
    trivial
  · rw [if_neg hone]
    by_cases htwo : number = 2
    · rw [if_pos htwo]
      trivial
    · rw [if_neg htwo]
      exact hmode (not_or.2 ⟨hone, htwo⟩) _

/-- On a ledger in order an operation is done and leaves the ledger in order, or it stops at a fault
that is expected of it. -/
theorem transaction_ends (hparams : p.params.NonNegative) (h : p.ledger.Orderly p.clock)
    {work : LedgerWork (Receipt Outcome)} (htx : p.transaction? op = some work) :
    Ends (p.Expected op) (fun _ m => m.Orderly p.clock) work p.ledger := by
  have hrefused (cause : Refusal) : p.Expected op (.refused cause) :=
    .inl (foreseen_refused _ cause)
  cases op <;> simp only [transaction?, Option.some.injEq, reduceCtorEq] at htx <;> subst htx
  case deposit => exact (depositing_ends hrefused h _ _ _).map
  case withdraw => exact (withdrawing_ends hrefused hparams h _ _ _ _).map
  case borrow asset amount number user =>
    apply Ends.lift (requireMode_answers hrefused (fun hmode _ => .inr hmode) p asset)
    intro mode _
    exact (borrowing_ends hrefused hparams h asset amount mode user).map
  case repay asset amount number user =>
    apply Ends.lift (requireMode_answers hrefused (fun hmode _ => .inr hmode) p asset)
    intro mode _
    exact (repaying_ends hrefused h asset amount mode user).map
  case setUsageAsCollateral => exact (switchingCollateral_ends hrefused hparams h _ _ _).map
  case setUsingMargin => exact (switchingMargin_ends hrefused hparams h _ _).map
  case liquidate call =>
    have hnamed (f : Fault) (hf : call.liquidator.named = .error f) :
        p.Expected (.liquidate call) f := by
      refine .inr ?_
      rintro ⟨name, hname⟩
      rw [hf] at hname
      cases hname
    exact (liquidating_ends hrefused hparams h hnamed).map
  case liquidateMargin caller request =>
    have hcounterparty (i : DebitInstruction) (f : Fault) (hf : p.settlement.submit i = .error f) :
        p.Expected (.liquidateMargin caller request) f := .inl (.inr ⟨i, hf⟩)
    split
    · exact hrefused _
    · exact (settleMargin_ends hrefused hparams h hcounterparty request).map

/-! ## Pools in order -/

theorem creditTreasuryIn_orderly (h : l.Orderly now) (treasury a : Key) :
    (creditTreasuryIn treasury l a).Orderly now := by
  unfold creditTreasuryIn
  split
  · exact h
  · rename_i r hr
    split
    · exact h
    · have horderly := h.reserves a r hr
      have hname := h.named a r hr
      have hpos := h.position treasury r.asset
      have hcredited := hpos.setSupply (Int.add_nonneg hpos.supply horderly.credit)
      have hpaid := h.setPosition hcredited ⟨r, hname ▸ hr⟩ treasury
      exact hpaid.setReserve { horderly with credit := Int.le_refl 0 } hname

theorem creditTreasury_orderly (h : l.Orderly now) (treasury : Key) :
    (creditTreasury treasury l).Orderly now := by
  unfold creditTreasury
  generalize l.reserves.keys = keys
  induction keys generalizing l with
  | nil => exact h
  | cons a rest ih => exact ih (creditTreasuryIn_orderly h treasury a)

/-- Whatever is listed has parameters that are not negative. -/
def Operation.Sensible : Operation → Prop
  | .initReserve config strategy => config.NonNegative ∧ strategy.NonNegative
  | _ => True

instance (op : Operation) : Decidable op.Sensible := by
  unfold Operation.Sensible
  split <;> infer_instance

theorem initReserve_orderly {config : ReserveConfig} {strategy : RateStrategy}
    (hconfig : config.NonNegative) (hstrategy : strategy.NonNegative)
    (h : p.ledger.Orderly p.clock) (hq : p.initReserve config strategy = .ok q) :
    q.ledger.Orderly p.clock := by
  obtain ⟨_, r, hr, rfl⟩ := initReserve_ok hq
  have hserves : strategy.Serves config.reserveFactor := serves_of_accrue hstrategy hr
  have hopened := opened_orderly hconfig hserves p.clock
  obtain ⟨hcurrent, hname⟩ := hopened.current_of_accrue hr
  exact h.setReserve hcurrent.orderly (congrArg Name.key hname)

theorem Administers.orderly (h : Administers p op q) (hop : op.Sensible)
    (hp : p.ledger.Orderly p.clock) : q.ledger.Orderly p.clock := by
  cases h with
  | unchanged | set | reported => exact hp
  | flagged hr =>
    have horderly := hp.reserves _ _ hr
    have hname := hp.named _ _ hr
    exact hp.setReserve { horderly with } hname
  | governed hr hset =>
    have horderly := hp.reserves _ _ hr
    have hname := hp.named _ _ hr
    have hserves := horderly.serves.1.set hset
    exact hp.setReserve { horderly with serves := hserves _ } hname
  | listed h => exact initReserve_orderly hop.1 hop.2 hp h

theorem after_orderly (hparams : p.params.NonNegative) (h : p.ledger.Orderly p.clock)
    (hop : op.Sensible) : (p.after op).ledger.Orderly (p.after op).clock := by
  refine Orderly.later ?_ (after_onward p op).clock
  cases htx : p.transaction? op with
  | none => exact (after_administers htx).orderly hop h
  | some work =>
    rcases after_transaction htx with hafter | ⟨_, l, hw, _, hafter⟩ <;> rw [hafter]
    · exact h
    · have hends := transaction_ends hparams h htx
      rw [Ends, hw] at hends
      exact creditTreasury_orderly hends _

theorem ReachableBy.orderly (h : ReachableBy Operation.Sensible p)
    (hparams : p.params.NonNegative) :
    p.ledger.Orderly p.clock := by
  apply h.induct (I := fun q => q.params.NonNegative → q.ledger.Orderly q.clock) _ _ hparams
  · exact fun _ clock _ => Orderly.empty clock
  · intro q op _ hop hq hnext
    rw [after_params] at hnext
    exact after_orderly hnext (hq hnext) hop

/-! ## Operations that fail -/

theorem transact_stops {α : Type} {work : LedgerWork (Receipt α)} {faults : Fault → Prop}
    {Q : Receipt α → Ledger → Prop} {f : Fault} (h : Ends faults Q work p.ledger)
    (hf : (p.transact work).2 = .error f) : faults f := by
  unfold transact atomically at hf
  unfold Ends at h
  split at h
  · rename_i hok
    simp only [hok] at hf
    cases hf
  · rename_i herror
    simp only [herror] at hf
    cases hf
    exact h

theorem requireNotPaused_described : Answers Fault.Described (fun _ => True) p.requireNotPaused :=
  (Answers.require (refused_described _)).mono fun _ _ => trivial

theorem submit_described (instruction : Option DebitInstruction) :
    Answers Fault.Described (fun _ => True) (p.submit p.settlement.submit instruction) := by
  unfold submit Settlement.submit
  split
  · split
    · nofun
    · trivial
  · trivial

theorem liquidating_described (hwhole : p.ledger.WholeTokens) (call : LiquidationCall) :
    Ends Fault.Described (fun _ _ => True) (p.liquidating call) p.ledger := by
  unfold liquidating
  apply Ends.lift requireNotPaused_described
  intro _ _
  exact (liquidate_described hwhole call).andThen fun _ _ _ => trivial

theorem settleMargin_described (hwhole : p.ledger.WholeTokens) (request : MarginRequest) :
    Ends Fault.Described (fun _ _ => True) (p.settleMargin p.settlement.submit request)
      p.ledger := by
  unfold settleMargin
  apply Ends.lift requireNotPaused_described
  intro _ _
  apply (liquidateMargin_described hwhole _).andThen
  intro result m _
  exact Ends.lift (submit_described result.instruction) fun _ _ => trivial

/-- No liquidation in a reachable pool ends the description of its ledger. -/
theorem Reachable.liquidations_described (h : Reachable p) :
    (∀ call, (p.perform (.liquidate call)).2 ≠ .error .notBookable) ∧
    ∀ caller request, (p.perform (.liquidateMargin caller request)).2 ≠ .error .notBookable := by
  constructor
  · intro call hf
    have htx : p.transaction? (.liquidate call) =
        some ((·.answer .liquidated) <$> p.liquidating call) := rfl
    rw [perform_transaction htx] at hf
    exact transact_stops (liquidating_described h.whole call).map hf rfl
  · intro caller request hf
    -- who calls is looked at before any work is done
    have hrun : p.perform (.liquidateMargin caller request) =
        (p.liquidateMargin caller request).answer .liquidated := rfl
    rw [hrun, liquidateMargin, liquidateMarginWith] at hf
    split at hf
    · cases hf
    · rw [transact_answer] at hf
      exact transact_stops (settleMargin_described h.whole request).map hf rfl

/-- **Only what is foreseen.** In every pool that a new one can become with parameters that are not
negative, a proper operation that fails is refused, or its counterparty has failed; so is a
liquidation of margin collateral with any counterparty. -/
theorem failures_foreseen (h : ReachableBy Operation.Sensible p) (hparams : p.params.NonNegative) :
    (∀ (op : Operation) (f : Fault), op.Proper → (p.perform op).2 = .error f →
      Foreseen p.settlement.submit f) ∧
    ∀ (counterparty : Counterparty) (caller : Json) (m : MarginRequest) (f : Fault),
      (p.liquidateMarginWith counterparty caller m).2 = .error f → Foreseen counterparty f := by
  have horderly := h.orderly hparams
  constructor
  · intro op f hop hf
    obtain ⟨work, htx⟩ := hop.transaction (p := p)
    rw [perform_transaction htx] at hf
    exact (transact_stops (transaction_ends hparams horderly htx) hf).resolve_right (not_not.2 hop)
  · intro counterparty caller m f hf
    unfold liquidateMarginWith at hf
    split at hf
    · cases hf
      exact foreseen_refused _ _
    · exact transact_stops (settleMargin_ends (foreseen_refused counterparty) hparams horderly
        (fun i f hi => .inr ⟨i, hi⟩) m) hf

def unsettled : List Operation := audited.dropLast ++ [.setOffline true]

/-- A borrowing that is refused, and a call that the counterparty does not take. -/
theorem failures_foreseen_offline :
    let p := run {} unsettled
    let loan := Operation.borrow (.text "WETH") 100 2 (.text "ana")
    let call := Operation.liquidateMargin (.text "fundlock") marginCall
    ReachableBy Operation.Sensible p ∧ p.params.NonNegative ∧ loan.Proper ∧ call.Proper ∧
      (∃ f, (p.perform loan).2 = .error f ∧ Foreseen p.settlement.submit f) ∧
      ∃ f, (p.perform call).2 = .error f ∧ Foreseen p.settlement.submit f := by
  intro p loan call
  have hp : ReachableBy Operation.Sensible p := ⟨{}, 0, unsettled, by decide +kernel, rfl⟩
  have hparams : p.params.NonNegative := by decide +kernel
  have hfail {op : Operation} (hop : op.Proper) (h : (p.perform op).2.toOption.isNone = true) :
      ∃ f, (p.perform op).2 = .error f ∧ Foreseen p.settlement.submit f := by
    cases hf : (p.perform op).2 with
    | ok answer =>
      rw [hf] at h
      cases h
    | error f => exact ⟨f, rfl, (failures_foreseen hp hparams).1 op f hop hf⟩
  have hloan : loan.Proper := .inr rfl
  have hcall : call.Proper := trivial
  exact ⟨hp, hparams, hloan, hcall,
    hfail hloan (by decide +kernel), hfail hcall (by decide +kernel)⟩

/-- A loan of so much that the refusal cannot be written ends in another fault. -/
theorem refusal_of_too_long_figure :
    let p := run {} [.initReserve .weth (.kinked .weth)]
    let loan := Operation.borrow (.text "WETH") (Numeral.tenPow 5018) 2 (.text "ana")
    ReachableBy Operation.Sensible p ∧ p.params.NonNegative ∧ loan.Proper ∧
      ∃ f, (p.perform loan).2 = .error f ∧ f.worded = .invalid .figureTooLong ∧
        ∀ i, p.settlement.submit i ≠ .error f.worded := by
  intro p loan
  have hp : ReachableBy Operation.Sensible p :=
    ⟨{}, 0, [.initReserve .weth (.kinked .weth)], by decide +kernel, rfl⟩
  have hlong : ∃ f, (p.perform loan).2 = .error f ∧ f.worded = .invalid .figureTooLong := by
    decide +kernel
  obtain ⟨f, hf, hworded⟩ := hlong
  refine ⟨hp, by decide +kernel, .inr rfl, f, hf, hworded, ?_⟩
  intro i hi
  rw [hworded, Settlement.submit] at hi
  split at hi <;> cases hi

end MoneyMarket.Pool
