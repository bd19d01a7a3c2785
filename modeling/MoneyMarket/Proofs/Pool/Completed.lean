import MoneyMarket.Proofs.Pool.Reach

/-!
# Operations that were done

The work of an operation that gave a receipt has passed its checks and has done its bookings. What
both were is stated once for each operation; whatever else is shown of an operation that was done is
read off that.
-/

namespace MoneyMarket.Pool

open MoneyMarket.FixedPoint MoneyMarket.Ledger MoneyMarket.LedgerWork

variable {p : Pool} {l m : Ledger} {asset user : Name} {amount : Int}

/-! ## Admission -/

theorem requirePositive_ok {kind : AmountKind} {u : Unit}
    (h : requirePositive kind amount = .ok u) : 0 < amount := by
  unfold requirePositive at h
  split at h
  · cases h
  · omega

theorem admitWithdrawal_ok {taken : Int} (h : p.admitWithdrawal l asset amount user = .ok taken) :
    ∃ r balance, l.reserve? asset = some r ∧ l.supplyOf user asset r p.clock = .ok balance ∧
      0 < taken ∧ taken ≤ balance ∧ taken = if amount = maxAmount then balance else amount := by
  simp only [admitWithdrawal, bind_ok_iff, guard_ok_iff, pure_ok_iff, reserve_ok_iff] at h
  obtain ⟨r, hr, _, _, _, _, _, _, balance, hbalance, _, hpositive, henough, _, rfl⟩ := h
  exact ⟨r, balance, hr, hbalance, requirePositive_ok hpositive, Int.not_lt.1 henough, rfl⟩

theorem admitRepayment_ok {mode : RateMode} {paid : Int}
    (h : p.admitRepayment l asset amount mode user = .ok paid) : ∃ r debt,
      l.reserve? asset = some r ∧ (l.position? user asset).isSome ∧
      debtOfMode r (l.position user asset) mode p.clock = .ok debt ∧ 0 < amount ∧
      paid = min amount debt ∧ debt ≠ 0 := by
  simp only [admitRepayment, bind_ok_iff, reserve_ok_iff] at h
  obtain ⟨r, hr, _, _, _, _, _, _, _, hpositive, h⟩ := h
  cases hpos : l.position? user asset with
  | none =>
    rw [hpos] at h
    exact absurd h throw_ne_ok
  | some pos =>
    simp only [hpos, bind_ok_iff, guard_ok_iff, pure_ok_iff] at h
    obtain ⟨debt, hdebt, hsome, rfl⟩ := h
    have hheld : l.position user asset = pos := by simp [Ledger.position, hpos]
    exact ⟨r, debt, hr, rfl, hheld ▸ hdebt, requirePositive_ok hpositive, rfl, hsome⟩

/-! ## Supplying -/

theorem depositing_completed {receipt : Receipt Unit}
    (h : p.depositing asset amount user l = .ok receipt m) :
    p.admitDeposit l asset amount = .ok () ∧ ∃ first,
      bookDeposit asset amount user p.clock l = .ok first m ∧
      receipt = {
        value := ()
        contents := (if first then [.collateralEnabled asset user] else []) ++
          [.deposit asset user amount] } := by
  unfold depositing at h
  simp only [bind_eq_ok, get_eq_ok, lift_eq_ok, done_eq_ok, and_assoc, exists_and_left,
    exists_eq_left] at h
  obtain ⟨_, hadmitted, first, _, hbook, rfl, rfl⟩ := h
  exact ⟨hadmitted, first, hbook, rfl⟩

/-- A position in use as collateral that a withdrawal has emptied is switched off. What is taken from
collateral leaves the account healthy. -/
theorem withdrawing_completed {recipient : Option Name} {receipt : Receipt Int}
    (h : p.withdrawing asset amount user recipient l = .ok receipt m) :
    ∃ (taken : Int) (l₁ : Ledger) (emptied : Bool),
      p.admitWithdrawal l asset amount user = .ok taken ∧
      bookWithdrawal asset taken user p.clock l = .ok () l₁ ∧
      emptied = ((l.position user asset).usedAsCollateral &&
        (l₁.position user asset).scaledBalance = 0) ∧
      m = (if emptied then
        l₁.modifyPosition user asset fun pos => { pos with usedAsCollateral := false } else l₁) ∧
      ((l.position user asset).usedAsCollateral = true →
        p.requireHealthy m user "withdraw" = .ok ()) ∧
      receipt = {
        value := taken
        contents := (if emptied then [.collateralDisabled asset user] else []) ++
          [.withdraw asset user (recipientOr user recipient) taken] } := by
  unfold withdrawing at h
  simp only [bind_eq_ok, get_eq_ok, lift_eq_ok, position_eq_ok, and_assoc, exists_and_left,
    exists_eq_left] at h
  obtain ⟨taken, hadmitted, _, l₁, hbook, h⟩ := h
  generalize hemptied : ((l.position user asset).usedAsCollateral &&
    decide ((l₁.position user asset).scaledBalance = 0)) = emptied at h
  refine ⟨taken, l₁, emptied, hadmitted, hbook, hemptied.symm, ?_⟩
  cases emptied <;> cases hflag : (l.position user asset).usedAsCollateral <;>
    simp only [hflag, Bool.false_eq_true, if_true, if_false, bind_eq_ok, get_eq_ok, lift_eq_ok,
      setUsedAsCollateral_eq_ok, done_eq_ok, and_assoc, exists_and_left, exists_eq_left,
      exists_const] at h ⊢
  · obtain ⟨rfl, rfl⟩ := h
    exact ⟨rfl, nofun, rfl⟩
  · obtain ⟨_, hhealthy, rfl, rfl⟩ := h
    exact ⟨rfl, fun _ => hhealthy, rfl⟩
  · simp [hflag] at hemptied
  · obtain ⟨_, hhealthy, rfl, rfl⟩ := h
    exact ⟨rfl, fun _ => hhealthy, rfl⟩

theorem switchingCollateral_completed {enabled : Bool} {receipt : Receipt Unit}
    (h : p.switchingCollateral user asset enabled l = .ok receipt m) :
    p.admitCollateralSwitch l user asset = .ok () ∧
      m = l.modifyPosition user asset (fun pos => { pos with usedAsCollateral := enabled }) ∧
      (enabled = false → p.requireHealthy m user "disabling collateral" = .ok ()) ∧
      receipt = { value := (), contents := [collateralSwitched enabled asset user] } := by
  unfold switchingCollateral at h
  cases enabled <;>
    simp only [Bool.not_false, Bool.not_true, Bool.false_eq_true, if_true, if_false, bind_eq_ok,
      get_eq_ok, lift_eq_ok, setUsedAsCollateral_eq_ok, done_eq_ok, and_assoc, exists_and_left,
      exists_eq_left, exists_const] at h
  · obtain ⟨_, hadmitted, _, hhealthy, rfl, rfl⟩ := h
    exact ⟨hadmitted, rfl, fun _ => hhealthy, rfl⟩
  · obtain ⟨_, hadmitted, rfl, rfl⟩ := h
    exact ⟨hadmitted, rfl, nofun, rfl⟩

theorem switchingMargin_completed {enabled : Bool} {receipt : Receipt Unit}
    (h : p.switchingMargin user enabled l = .ok receipt m) :
    p.admitMarginSwitch l user enabled = .ok () ∧ m = l.setUsesMargin user enabled ∧
      receipt = { value := (), contents := [.marginUsage user enabled] } := by
  unfold switchingMargin at h
  simp only [bind_eq_ok, get_eq_ok, lift_eq_ok, done_eq_ok, and_assoc, exists_and_left,
    exists_eq_left] at h
  obtain ⟨_, hadmitted, _, _, hswitch, rfl, rfl⟩ := h
  cases hswitch
  exact ⟨hadmitted, rfl, rfl⟩

/-! ## Borrowing -/

theorem borrowing_completed {mode : RateMode} {receipt : Receipt Unit}
    (h : p.borrowing asset amount mode user l = .ok receipt m) :
    p.admitBorrow l asset amount user = .ok () ∧ ∃ rate,
      bookLoan asset amount mode user p.clock (l.openPosition user asset) = .ok rate m ∧
      p.requireHealthy m user "borrow" = .ok () ∧
      receipt = { value := (), contents := [.borrow asset user amount mode rate] } := by
  unfold borrowing at h
  simp only [bind_eq_ok, get_eq_ok, lift_eq_ok, openPosition_eq_ok, and_assoc, exists_and_left,
    exists_eq_left, exists_const] at h
  obtain ⟨_, hadmitted, h⟩ := h
  refine ⟨hadmitted, ?_⟩
  split at h <;> simp only [bind_eq_ok, get_eq_ok, lift_eq_ok, position_eq_ok, done_eq_ok, and_assoc,
    exists_and_left, exists_eq_left] at h
  · obtain ⟨_, _, hreserve, _, _, rate, _, hbook, _, hhealthy, rfl, rfl⟩ := h
    obtain ⟨_, rfl⟩ := lift_done (e := (l.openPosition user asset).reserve asset) hreserve
    exact ⟨rate, hbook, hhealthy, rfl⟩
  · obtain ⟨rate, _, hbook, _, hhealthy, rfl, rfl⟩ := h
    exact ⟨rate, hbook, hhealthy, rfl⟩

theorem repaying_completed {mode : RateMode} {receipt : Receipt Int}
    (h : p.repaying asset amount mode user l = .ok receipt m) :
    ∃ paid, p.admitRepayment l asset amount mode user = .ok paid ∧
      bookRepayment asset paid mode user p.clock l = .ok () m ∧
      receipt = { value := paid, contents := [.repay asset user paid mode] } := by
  unfold repaying at h
  simp only [bind_eq_ok, get_eq_ok, lift_eq_ok, done_eq_ok, and_assoc, exists_and_left,
    exists_eq_left] at h
  obtain ⟨paid, hadmitted, _, _, hbook, rfl, rfl⟩ := h
  exact ⟨paid, hadmitted, hbook, rfl⟩

/-! ## Liquidating -/

theorem liquidating_completed {c : LiquidationCall} {receipt : Receipt LiquidationResult}
    (h : p.liquidating c l = .ok receipt m) :
    ∃ result, LedgerWork.liquidate p.surroundings p.params.liquidation c p.clock l = .ok result m ∧
      receipt = {
        value := result
        contents := [.liquidation c.collateralAsset c.debtAsset c.borrower result.debtRepaid
          result.collateralSeized c.liquidator c.receiveUnderlying] } := by
  unfold liquidating at h
  simp only [bind_eq_ok, lift_eq_ok, done_eq_ok, and_assoc, exists_and_left, exists_eq_left] at h
  obtain ⟨_, _, result, _, hwork, rfl, rfl⟩ := h
  exact ⟨result, hwork, rfl⟩

theorem settleMargin_completed {counterparty : Counterparty} {request : MarginRequest}
    {receipt : Receipt LiquidationResult} (h : p.settleMargin counterparty request l = .ok receipt m) :
    ∃ result settlement,
      LedgerWork.liquidateMargin p.surroundings p.params.liquidation
        (request.routed p.params.receiverAccount) p.clock l = .ok result m ∧
      p.submit counterparty result.instruction = .ok settlement ∧
      receipt = {
        value := result
        contents := [.marginLiquidation request.borrower request.debtAsset request.collateralAsset
          result.debtRepaid result.collateralSeized p.params.receiverAccount]
        settlement := some settlement } := by
  unfold settleMargin at h
  simp only [bind_eq_ok, lift_eq_ok, done_eq_ok, and_assoc, exists_and_left, exists_eq_left] at h
  obtain ⟨_, _, result, _, hwork, settlement, hsubmit, rfl, rfl⟩ := h
  exact ⟨result, settlement, hwork, hsubmit, rfl⟩

/-! ## All operations -/

variable {op : Operation}

/-- The work of an operation on accounts, on a ledger where it is done, with what it leaves. -/
inductive Completes (p : Pool) (l m : Ledger) : Operation → Receipt Outcome → Prop
  | deposit {asset user : Name} {amount : Int} {receipt : Receipt Unit}
      (h : p.depositing asset amount user l = .ok receipt m) :
      Completes p l m (.deposit asset amount user) (receipt.answer fun _ => .done)
  | withdraw {asset user : Name} {amount : Int} {recipient : Option Name} {receipt : Receipt Int}
      (h : p.withdrawing asset amount user recipient l = .ok receipt m) :
      Completes p l m (.withdraw asset amount user recipient) (receipt.answer .amount)
  | borrow {asset user : Name} {amount : Int} {mode : RateMode} {receipt : Receipt Unit}
      (h : p.borrowing asset amount mode user l = .ok receipt m) :
      Completes p l m (.borrow asset amount mode.number user) (receipt.answer fun _ => .done)
  | repay {asset user : Name} {amount : Int} {mode : RateMode} {receipt : Receipt Int}
      (h : p.repaying asset amount mode user l = .ok receipt m) :
      Completes p l m (.repay asset amount mode.number user) (receipt.answer .amount)
  | setUsageAsCollateral {user asset : Name} {enabled : Bool} {receipt : Receipt Unit}
      (h : p.switchingCollateral user asset enabled l = .ok receipt m) :
      Completes p l m (.setUsageAsCollateral user asset enabled) (receipt.answer fun _ => .done)
  | setUsingMargin {user : Name} {enabled : Bool} {receipt : Receipt Unit}
      (h : p.switchingMargin user enabled l = .ok receipt m) :
      Completes p l m (.setUsingMargin user enabled) (receipt.answer fun _ => .done)
  | liquidate {call : LiquidationCall} {receipt : Receipt LiquidationResult}
      (h : p.liquidating call l = .ok receipt m) :
      Completes p l m (.liquidate call) (receipt.answer .liquidated)
  | liquidateMargin {request : MarginRequest} {receipt : Receipt LiquidationResult}
      (h : p.settleMargin p.settlement.submit request l = .ok receipt m) :
      Completes p l m (.liquidateMargin (.text p.params.settlementCounterparty) request)
        (receipt.answer .liquidated)

theorem requireMode_ok {number : Int} {mode : RateMode} (h : p.requireMode asset number = .ok mode) :
    number = mode.number := by
  obtain ⟨_, _, h₁⟩ := bind_ok_iff.1 h
  split at h₁
  · rename_i mode' hnumber
    rw [← pure_ok_iff.1 h₁]
    exact RateMode.number_of_ofNumber? hnumber
  · exact absurd h₁ throw_ne_ok

theorem transaction_completes {work : LedgerWork (Receipt Outcome)} {receipt : Receipt Outcome}
    (htx : p.transaction? op = some work) (hw : work l = .ok receipt m) :
    Completes p l m op receipt := by
  cases op <;> simp only [transaction?, Option.some.injEq, reduceCtorEq] at htx <;> subst htx
  case deposit =>
    obtain ⟨_, hdone, rfl⟩ := map_done hw
    exact .deposit hdone
  case withdraw =>
    obtain ⟨_, hdone, rfl⟩ := map_done hw
    exact .withdraw hdone
  case borrow =>
    obtain ⟨_, _, hmode, hw₁⟩ := bind_eq_ok.1 hw
    obtain ⟨hnumber, rfl⟩ := lift_done hmode
    obtain rfl := requireMode_ok hnumber
    obtain ⟨_, hdone, rfl⟩ := map_done hw₁
    exact .borrow hdone
  case repay =>
    obtain ⟨_, _, hmode, hw₁⟩ := bind_eq_ok.1 hw
    obtain ⟨hnumber, rfl⟩ := lift_done hmode
    obtain rfl := requireMode_ok hnumber
    obtain ⟨_, hdone, rfl⟩ := map_done hw₁
    exact .repay hdone
  case setUsageAsCollateral =>
    obtain ⟨_, hdone, rfl⟩ := map_done hw
    exact .setUsageAsCollateral hdone
  case setUsingMargin =>
    obtain ⟨_, hdone, rfl⟩ := map_done hw
    exact .setUsingMargin hdone
  case liquidate =>
    obtain ⟨_, hdone, rfl⟩ := map_done hw
    exact .liquidate hdone
  case liquidateMargin caller request =>
    split at hw
    · obtain ⟨_, _, hthrow, _⟩ := bind_eq_ok.1 hw
      cases hthrow
    · rename_i hcaller
      obtain ⟨_, hdone, rfl⟩ := map_done hw
      obtain rfl := not_not.1 hcaller
      exact .liquidateMargin hdone

end MoneyMarket.Pool
