import MoneyMarket.Proofs.Ledger.Supplies
import MoneyMarket.Proofs.Liquidation
import MoneyMarket.Proofs.Pool.Completed
import MoneyMarket.Proofs.Pool.Timely

/-!
# What operations do to supplies

Each operation on accounts is read as a change of supplies, with what it publishes beside it.
-/

namespace MoneyMarket.Pool

open MoneyMarket.Ledger MoneyMarket.LedgerWork

variable {p : Pool} {l m : Ledger} {op : Operation} {asset user : Name} {amount : Int}

/-- What an operation that is done publishes, and what it makes of the supplies. -/
inductive Handles (s : Supplies) : Operation → List PoolEvent.Content → Supplies → Prop
  | deposit {asset user : Name} {amount x : Int} {first : Bool}
      (hfirst : first = decide (s.held user asset = 0)) (hx : 0 ≤ x) :
      Handles s (.deposit asset amount user)
        ((if first then [.collateralEnabled asset user] else []) ++ [.deposit asset user amount])
        (s.receive user asset first x)
  | withdraw {asset user recipient : Name} {amount taken x : Int} {asked : Option Name} {emptied : Bool}
      (hemptied : emptied = (s.flagged user asset && s.held user asset = x)) (hx : 0 ≤ x)
      (hle : x ≤ s.held user asset) :
      Handles s (.withdraw asset amount user asked)
        ((if emptied then [.collateralDisabled asset user] else []) ++
          [.withdraw asset user recipient taken])
        ((s.add user asset (-x)).retire user asset)
  | borrow {asset user : Name} {amount number rate : Int} {mode : RateMode} :
      Handles s (.borrow asset amount number user) [.borrow asset user amount mode rate] s
  | repay {asset user : Name} {amount number paid : Int} {mode : RateMode} :
      Handles s (.repay asset amount number user) [.repay asset user paid mode] s
  | switch {asset user : Name} {enabled : Bool} (hsome : s.held user asset ≠ 0) :
      Handles s (.setUsageAsCollateral user asset enabled) [collateralSwitched enabled asset user]
        (s.switch user asset enabled)
  | switchMargin {user : Name} {enabled : Bool} :
      Handles s (.setUsingMargin user enabled) [.marginUsage user enabled] s
  | liquidate {c : LiquidationCall} {repaid seized : Quantity} {x : Int}
      (hflag : s.flagged c.borrower c.collateralAsset = true)
      (hsome : s.held c.borrower c.collateralAsset ≠ 0) (hx : 0 ≤ x)
      (hle : x ≤ s.held c.borrower c.collateralAsset) :
      Handles s (.liquidate c)
        [.liquidation c.collateralAsset c.debtAsset c.borrower repaid seized c.liquidator
          c.receiveUnderlying]
        (s.seize c.borrower c.collateralAsset c.receiver? x)
  | liquidateMargin {caller : Json} {request : MarginRequest} {repaid seized : Quantity}
      {destination : String} :
      Handles s (.liquidateMargin caller request)
        [.marginLiquidation request.borrower request.debtAsset request.collateralAsset repaid seized
          destination] s

theorem held_of_shown {r : Reserve} {now balance : Int} (hsome : balance ≠ 0)
    (h : l.supplyOf user asset r now = .ok balance) : l.supplies.held user asset ≠ 0 := by
  rw [supplies_held]
  intro hnone
  rw [supplyOf_eq, Position.supplyBalance, if_pos hnone] at h
  cases h
  exact hsome rfl

theorem flagged_of_seizable {user asset : Key} {r : Reserve} {balance : Int}
    (h : l.seizable user asset r balance = true) :
    l.supplies.flagged user asset = true ∧ 0 < balance := by
  show (l.position? user asset).any _ = true ∧ _
  unfold seizable at h
  cases hpos : l.position? user asset <;> simp [hpos] at h ⊢
  exact ⟨h.1.1, h.2⟩

theorem depositing_handles {receipt : Receipt Unit}
    (h : p.depositing asset amount user l = .ok receipt m) :
    Handles l.supplies (.deposit asset amount user) receipt.contents m.supplies := by
  obtain ⟨_, first, hbook, rfl⟩ := depositing_completed h
  obtain ⟨hfirst, x, hx, hm⟩ := bookDeposit_supplies hbook
  rw [hm]
  exact .deposit hfirst hx

theorem withdrawing_handles {recipient : Option Name} {receipt : Receipt Int}
    (h : p.withdrawing asset amount user recipient l = .ok receipt m) :
    Handles l.supplies (.withdraw asset amount user recipient) receipt.contents m.supplies := by
  obtain ⟨taken, l₁, emptied, _, hbook, hemptied, rfl, _, rfl⟩ := withdrawing_completed h
  obtain ⟨x, hx, hle, hl₁⟩ := bookWithdrawal_supplies hbook
  have hleft : (l₁.position user asset).scaledBalance = l.supplies.held user asset + -x := by
    rw [← supplies_held, hl₁, Supplies.held_add, if_pos ⟨rfl, rfl⟩]
  rw [← supplies_flagged, hleft] at hemptied
  have hretired : (if emptied then l₁.modifyPosition user asset
      fun pos => { pos with usedAsCollateral := false } else l₁).supplies =
      (l.supplies.add user asset (-x)).retire user asset := by
    by_cases hempty : l.supplies.held user asset + -x = 0
    · have hheld : (l.supplies.add user asset (-x)).held user asset = 0 := by simpa using hempty
      cases hflag : l.supplies.flagged user asset with
      | true =>
        rw [hemptied, hflag, if_pos (by simpa using hempty), supplies_switch, hl₁, Supplies.retire,
          if_pos hheld]
      | false =>
        rw [hemptied, hflag, if_neg (by simp), hl₁]
        exact (Supplies.retire_of_unflagged (s := l.supplies.add user asset (-x)) hflag).symm
    · have hheld : (l.supplies.add user asset (-x)).held user asset ≠ 0 := by simpa using hempty
      rw [hemptied, if_neg (by simp [hempty]), hl₁, Supplies.retire, if_neg hheld]
  rw [hretired]
  refine .withdraw ?_ hx hle
  rw [hemptied]
  congr 2
  exact propext (by omega)

theorem switchingCollateral_handles {enabled : Bool} {receipt : Receipt Unit}
    (h : p.switchingCollateral user asset enabled l = .ok receipt m) :
    Handles l.supplies (.setUsageAsCollateral user asset enabled) receipt.contents m.supplies := by
  obtain ⟨hadmitted, rfl, _, rfl⟩ := switchingCollateral_completed h
  simp only [admitCollateralSwitch, bind_ok_iff, reserve_ok_iff, check_ok_iff] at hadmitted
  obtain ⟨r, _, _, _, _, _, _, _, balance, hbalance, hsome⟩ := hadmitted
  rw [supplies_switch]
  exact .switch (held_of_shown hsome hbalance)

theorem liquidating_handles {c : LiquidationCall} {receipt : Receipt LiquidationResult}
    (h : p.liquidating c l = .ok receipt m) :
    Handles l.supplies (.liquidate c) receipt.contents m.supplies := by
  obtain ⟨result, hwork, rfl⟩ := liquidating_completed h
  obtain ⟨hplan, repaid, seized, l₁, _, _, hsettle, hmove⟩ := liquidate_completed hwork
  obtain ⟨r, _, balance, _, _, _, _, _, _, hbalance, hplanned, _⟩ := planStandardLiquidation_ok hplan
  obtain ⟨_, _, _, _, hseizable, _⟩ := planLiquidation_ok hplanned
  obtain ⟨hflag, hpositive⟩ := flagged_of_seizable hseizable
  obtain ⟨x, hx, hle, hm⟩ := moveCollateral_supplies hmove
  rw [settleDebt_supplies hsettle] at hle hm
  rw [hm]
  exact .liquidate hflag (held_of_shown (by omega) hbalance) hx hle

theorem transaction_handles {work : LedgerWork (Receipt Outcome)} {receipt : Receipt Outcome}
    (htx : p.transaction? op = some work) (hw : work l = .ok receipt m) :
    Handles l.supplies op receipt.contents m.supplies := by
  cases transaction_completes htx hw with
  | deposit h => exact depositing_handles h
  | withdraw h => exact withdrawing_handles h
  | borrow h =>
    obtain ⟨_, rate, hbook, _, rfl⟩ := borrowing_completed h
    rw [bookLoan_supplies hbook, supplies_openPosition]
    exact .borrow
  | repay h =>
    obtain ⟨paid, _, hbook, rfl⟩ := repaying_completed h
    rw [bookRepayment_supplies hbook]
    exact .repay
  | setUsageAsCollateral h => exact switchingCollateral_handles h
  | setUsingMargin h =>
    obtain ⟨_, rfl, rfl⟩ := switchingMargin_completed h
    exact .switchMargin
  | liquidate h => exact liquidating_handles h
  | liquidateMargin h =>
    obtain ⟨result, settlement, hwork, _, rfl⟩ := settleMargin_completed h
    obtain ⟨_, repaid, _, hsettle⟩ := liquidateMargin_completed hwork
    rw [settleDebt_supplies hsettle]
    exact .liquidateMargin

/-! ## Commits -/

/-- An operation on accounts has handled supplies and published that, with a credit to the treasury
after it, or it has failed. -/
theorem perform_handles {work : LedgerWork (Receipt Outcome)} (hp : Sound p.ledger)
    (htx : p.transaction? op = some work) :
    (∃ receipt m, work p.ledger = .ok receipt m ∧
      p.perform op = (p.commit m receipt, .ok receipt.value) ∧
      Handles p.ledger.supplies op receipt.contents m.supplies ∧
      m.supplies.Grows (p.commit m receipt).ledger.supplies) ∨
    ∃ f m, work p.ledger = .error f m ∧ p.perform op = (p, .error f) := by
  rw [perform_transaction htx]
  rcases transact_cases (p := p) (within_transaction htx) with
    ⟨receipt, m, hw, hsteps, ht⟩ | ⟨f, m, hw, _, ht⟩
  · exact .inl ⟨receipt, m, hw, ht, transaction_handles htx hw,
      creditTreasury_grows (hsteps.sound hp) _⟩
  · exact .inr ⟨f, m, hw, ht⟩

theorem Administered.supplies {q : Pool} (h : Administered p q) :
    q.ledger.supplies = p.ledger.supplies := by
  cases h with
  | same hledger => rw [hledger]
  | edited => rfl
  | listed h =>
    obtain ⟨_, _, _, rfl⟩ := initReserve_ok h
    rfl

end MoneyMarket.Pool
