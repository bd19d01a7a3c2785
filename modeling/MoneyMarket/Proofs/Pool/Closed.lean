import MoneyMarket.Proofs.Ledger.Spared
import MoneyMarket.Proofs.Liquidation.Margin
import MoneyMarket.Proofs.Pool.Commuting
import MoneyMarket.Proofs.Pool.Completed

/-!
# Closed reserves

While the pool or a reserve is paused, or the reserve is inactive, no operation on accounts is done
in it: each of them checks this for every reserve that it deals in. What is done in other reserves
spares it, and so does the treasury, which has nothing left to be credited from it.
-/

namespace MoneyMarket

def Reserve.Open (r : Reserve) : Prop := r.active = true ∧ r.paused = false

instance (r : Reserve) : Decidable r.Open := inferInstanceAs (Decidable (_ ∧ _))

namespace Reserve

variable {r : Reserve} {u : Unit}

theorem requireActive_ok (h : r.requireActive = .ok u) : r.active = true := by
  unfold requireActive at h
  split at h
  · assumption
  · cases h

theorem requireNotPaused_ok (h : r.requireNotPaused = .ok u) : r.paused = false := by
  unfold requireNotPaused at h
  split at h
  · cases h
  · exact Bool.eq_false_iff.2 ‹_›

end Reserve

theorem Ledger.open_of_required {l : Ledger} {a b : Key} {collateral debt : Reserve} {u : Unit}
    (hcollateral : l.reserve? a = some collateral) (hdebt : l.reserve? b = some debt)
    (h : requireOpen collateral debt = .ok u) : ∀ k ∈ [a, b], ∃ r ∈ l.reserve? k, r.Open := by
  simp only [requireOpen, bind_ok_iff] at h
  obtain ⟨_, hactive, _, hpaused, _, hactive', hpaused'⟩ := h
  simp only [List.forall_mem_cons]
  refine ⟨⟨collateral, hcollateral, ?_, ?_⟩, ⟨debt, hdebt, ?_, ?_⟩, List.forall_mem_nil _⟩
  · exact Reserve.requireActive_ok hactive
  · exact Reserve.requireNotPaused_ok hpaused
  · exact Reserve.requireActive_ok hactive'
  · exact Reserve.requireNotPaused_ok hpaused'

namespace Pool

open MoneyMarket.Ledger MoneyMarket.LedgerWork MoneyMarket.Reserve

variable {p q : Pool} {l m : Ledger} {op : Operation} {a : Key} {asset user : Name} {amount : Int}
variable {u : Unit}

/-! ## Gates -/

/-- The pool is not paused, and operations may deal in the listed reserve. -/
def Admits (p : Pool) (l : Ledger) (a : Key) : Prop :=
  p.paused = false ∧ ∃ r ∈ l.reserve? a, r.Open

instance (p : Pool) (l : Ledger) (a : Key) : Decidable (p.Admits l a) :=
  inferInstanceAs (Decidable (_ ∧ _))

theorem requireNotPaused_ok (h : p.requireNotPaused = .ok u) : p.paused = false := by
  unfold requireNotPaused at h
  split at h
  · cases h
  · exact Bool.eq_false_iff.2 ‹_›

theorem admits_of_gates {α : Type} {x : α} {rest : Reserve → Except Fault α} (h : (do
    let r ← l.reserve asset
    p.requireNotPaused
    r.requireActive
    r.requireNotPaused
    rest r) = .ok x) : p.Admits l asset := by
  simp only [bind_ok_iff, reserve_ok_iff] at h
  obtain ⟨r, hr, _, hpool, _, hactive, _, hpaused, _⟩ := h
  exact ⟨requireNotPaused_ok hpool, r, hr, requireActive_ok hactive, Reserve.requireNotPaused_ok hpaused⟩

def Operation.assets : Operation → List Key
  | .deposit asset _ _ | .withdraw asset _ _ _ => [asset.key]
  | .borrow asset _ _ _ | .repay asset _ _ _ => [asset.key]
  | .setUsageAsCollateral _ asset _ => [asset.key]
  | .liquidate call => [call.collateralAsset.key, call.debtAsset.key]
  | .liquidateMargin _ request => [request.collateralAsset.key, request.debtAsset.key]
  | _ => []

theorem Completes.admits {receipt : Receipt Outcome} (h : Completes p l m op receipt) :
    ∀ a ∈ op.assets, p.Admits l a := by
  have single {asset : Name} (h : p.Admits l asset) : ∀ a ∈ [asset.key], p.Admits l a := by
    simpa using h
  cases h with
  | deposit h => exact single (admits_of_gates (depositing_completed h).1)
  | withdraw h =>
    obtain ⟨_, _, _, hadmitted, _⟩ := withdrawing_completed h
    exact single (admits_of_gates hadmitted)
  | borrow h => exact single (admits_of_gates (borrowing_completed h).1)
  | repay h =>
    obtain ⟨_, hadmitted, _⟩ := repaying_completed h
    exact single (admits_of_gates hadmitted)
  | setUsageAsCollateral h =>
    exact single (admits_of_gates (switchingCollateral_completed h).1)
  | setUsingMargin => exact List.forall_mem_nil _
  | liquidate h =>
    obtain ⟨_, _, hpool, _⟩ := bind_eq_ok.1 h
    obtain ⟨_, hwork, _⟩ := liquidating_completed h
    obtain ⟨_, _, _, _, _, _, hcollateral, hdebt, hopen, _⟩ :=
      planStandardLiquidation_ok (liquidate_completed hwork).1
    intro a ha
    exact ⟨requireNotPaused_ok (lift_done hpool).1, open_of_required hcollateral hdebt hopen a ha⟩
  | liquidateMargin h =>
    obtain ⟨_, _, hpool, _⟩ := bind_eq_ok.1 h
    obtain ⟨_, _, hwork, _⟩ := settleMargin_completed h
    obtain ⟨_, _, _, _, _, _, _, hcollateral, hdebt, hopen, _⟩ :=
      planMarginLiquidation_ok (liquidateMargin_completed hwork).1
    intro a ha
    exact ⟨requireNotPaused_ok (lift_done hpool).1, open_of_required hcollateral hdebt hopen a ha⟩

theorem Completes.spares {receipt : Receipt Outcome} (h : Completes p l m op receipt)
    (ha : a ∉ op.assets) : Spares a l m := by
  have other {asset : Name} (ha : a ∉ [asset.key]) : a ≠ asset := fun h => ha (by simp [h])
  cases h with
  | deposit h =>
    obtain ⟨_, _, hbook, _⟩ := depositing_completed h
    exact (bookDeposit_keptTo hbook).spares (other ha)
  | withdraw h =>
    obtain ⟨_, l₁, emptied, _, hbook, _, rfl, _⟩ := withdrawing_completed h
    have hkept := bookWithdrawal_keptTo hbook
    cases emptied with
    | false => exact hkept.spares (other ha)
    | true => exact (hkept.write _ _).spares (other ha)
  | borrow h =>
    obtain ⟨_, _, hbook, _⟩ := borrowing_completed h
    exact ((keptTo_write _ _).trans (bookLoan_keptTo hbook)).spares (other ha)
  | repay h =>
    obtain ⟨_, _, hbook, _⟩ := repaying_completed h
    exact (bookRepayment_keptTo hbook).spares (other ha)
  | setUsageAsCollateral h =>
    obtain ⟨_, rfl, _⟩ := switchingCollateral_completed h
    exact (keptTo_write _ _).spares (other ha)
  | setUsingMargin h =>
    obtain ⟨_, rfl, _⟩ := switchingMargin_completed h
    exact ⟨rfl, fun _ => rfl⟩
  | liquidate h =>
    obtain ⟨_, hwork, _⟩ := liquidating_completed h
    obtain ⟨_, _, _, _, _, _, hsettle, hmove⟩ := liquidate_completed hwork
    simp only [Operation.assets, List.mem_cons, List.not_mem_nil, or_false, not_or] at ha
    exact ((settleDebt_keptTo hsettle).spares ha.2).trans ((moveCollateral_keptTo hmove).spares ha.1)
  | liquidateMargin h =>
    obtain ⟨_, _, hwork, _⟩ := settleMargin_completed h
    obtain ⟨_, _, _, hsettle⟩ := liquidateMargin_completed hwork
    simp only [Operation.assets, List.mem_cons, List.not_mem_nil, or_false, not_or] at ha
    exact (settleDebt_keptTo hsettle).spares ha.2

/-! ## The treasury -/

/-- A reserve from which nothing is to be credited is spared, with all positions in it. -/
theorem creditTreasury_spares {treasury : Key} (hl : Sound l)
    (hzero : ∀ r, l.reserve? a = some r → r.accruedToTreasury = 0) :
    Spares a l (creditTreasury treasury l) := by
  unfold creditTreasury
  generalize l.reserves.keys = keys
  induction keys generalizing l with
  | nil => exact .refl a l
  | cons b rest ih =>
    have hhere : Spares a l (creditTreasuryIn treasury l b) := by
      by_cases hab : a = b
      · subst hab
        unfold creditTreasuryIn
        split
        · exact .refl a l
        · rw [if_pos (hzero _ ‹_›)]
          exact .refl a l
      · exact (creditTreasuryIn_confined hl).spares hab
    have hsteps : Steps True l (creditTreasuryIn treasury l b) := creditTreasuryIn_steps treasury l b
    refine hhere.trans (ih (hsteps.sound hl) fun r hr => hzero r ?_)
    rwa [hhere.reserve?] at hr

theorem after_transaction_spares (hp : Attainable p) {work : LedgerWork (Receipt Outcome)}
    (htx : p.transaction? op = some work) (hclosed : ¬ p.Admits p.ledger a) :
    Spares a p.ledger (p.after op).ledger := by
  rcases after_transaction htx with h | ⟨receipt, l, hw, _, h⟩ <;> rw [h]
  · exact .refl a p.ledger
  · have hcompletes := transaction_completes htx hw
    have hspared := hcompletes.spares fun ha => hclosed (hcompletes.admits a ha)
    refine hspared.trans (creditTreasury_spares (transaction_sound hp htx hw) fun r hr => ?_)
    rw [hspared.reserve?] at hr
    exact hp.settled a r hr

/-! ## Administration -/

def Operation.Governs (a : Key) : Operation → Prop
  | .govern asset _ _ _ => asset.key = a
  | _ => False

theorem Administers.rests (h : Administers p op q) (a : Key) :
    Rests (op.Governs a) a p.ledger q.ledger := by
  cases h with
  | unchanged | set | reported => exact (Spares.refl a _).rests
  | flagged hr => exact rests_setReserve hr rfl fun _ _ => rfl
  | governed hr => exact rests_setReserve hr rfl fun ha hnot => absurd ha.symm hnot
  | listed h =>
    obtain ⟨hnew, s, _, rfl⟩ := initReserve_ok h
    refine ⟨?_, fun _ => rfl⟩
    intro r hr
    have hother : a ≠ _ := fun ha => by
      rw [ha, hnew] at hr
      cases hr
    exact ⟨r, by simp [hother, hr], rfl, fun _ => rfl⟩

/-! ## Runs -/

theorem after_rests (hp : Attainable p) (hclosed : ¬ p.Admits p.ledger a) (op : Operation) :
    Rests (op.Governs a) a p.ledger (p.after op).ledger := by
  cases htx : p.transaction? op with
  | some work => exact (after_transaction_spares hp htx hclosed).rests
  | none => exact (after_administers htx).rests a

/-- Before each operation of the run the pool is paused, or the reserve is paused or inactive. -/
def StaysClosed (p : Pool) (a : Key) : List Operation → Prop
  | [] => True
  | op :: rest => ¬ p.Admits p.ledger a ∧ StaysClosed (p.after op) a rest

instance decidableStaysClosed (p : Pool) (a : Key) :
    (ops : List Operation) → Decidable (p.StaysClosed a ops)
  | [] => .isTrue trivial
  | _ :: rest => @instDecidableAnd _ _ _ (decidableStaysClosed (p.after _) a rest)

theorem run_rests (hp : Attainable p) {ops : List Operation} (hclosed : p.StaysClosed a ops) :
    Rests (∃ op ∈ ops, op.Governs a) a p.ledger (p.run ops).ledger := by
  induction ops generalizing p with
  | nil => exact (Spares.refl a p.ledger).rests
  | cons op rest ih =>
    have hfirst := after_rests hp hclosed.1 op
    have hrest := ih (attainable_after hp op) hclosed.2
    exact (hfirst.trans hrest).mono (List.exists_mem_cons_iff _ op rest).2

/-- **Closed reserves.** Whatever is attempted while a reserve stays closed, in whatever time: of the
reserve nothing changes but flags and parameters that its own strategy's governance sets, and no
position in it is made or changed. -/
theorem closed_reserve_rests (hp : Reachable p) {ops : List Operation}
    (hclosed : p.StaysClosed a ops) :
    Rests (∃ op ∈ ops, op.Governs a) a p.ledger (p.run ops).ledger :=
  run_rests hp.attainable hclosed

def pausedWithDebt : List Operation :=
  borrowedAcrossForAYear ++ [.setReservePaused (.text "DAI") true]

/-- Everything is tried on the paused reserve, for another year, while the other one is used. -/
def triedWhilePaused : List Operation :=
  [.deposit (.text "DAI") 1000 (.text "dan"),
    .withdraw (.text "DAI") 1000 (.text "carol") none,
    .repay (.text "DAI") 1000 2 (.text "ana"),
    .borrow (.text "DAI") 1000 2 (.text "ben"),
    .advanceTime 31536000,
    .deposit (.text "WETH") 5000 (.text "dan"),
    .setReserveFrozen (.text "DAI") true,
    .setUsageAsCollateral (.text "carol") (.text "DAI") false,
    .setPrice (.text "WETH") (.whole 1000000000000000000),
    .liquidate { collateralAsset := .text "WETH", debtAsset := .text "DAI", borrower := .text "ana"
                 debtToCover := 1000 },
    .liquidate { collateralAsset := .text "DAI", debtAsset := .text "DAI", borrower := .text "ana"
                 debtToCover := 1000 },
    .liquidateMargin (.text "settlement")
      { borrower := .text "ana", debtToCover := 1000, debtAsset := .text "DAI"
        collateralAsset := .text "WETH", maxCollateral := 1000 }]

theorem triedWhilePaused_rests :
    let p := run {} pausedWithDebt
    p.StaysClosed (.text "DAI") triedWhilePaused ∧
    (p.run triedWhilePaused).clock = 63072000 ∧
    (p.run triedWhilePaused).ledger.amount Position.scaledBalance (.text "WETH") (.text "dan") =
      5000 ∧
    Rests (∃ op ∈ triedWhilePaused, op.Governs (.text "DAI")) (.text "DAI") p.ledger
      (p.run triedWhilePaused).ledger := by
  intro p
  have hreachable : Reachable p := ⟨⟨{}, 0, pausedWithDebt, rfl⟩, by decide +kernel⟩
  have hclosed : p.StaysClosed (.text "DAI") triedWhilePaused := by decide +kernel
  exact ⟨hclosed, by decide +kernel, by decide +kernel, closed_reserve_rests hreachable hclosed⟩

end Pool

end MoneyMarket
