import MoneyMarket.Proofs.Ledger.Settling

/-!
# Supplies

What an account has supplied to a reserve is a stored amount, with a switch that says whether it is
used as collateral. Only the bookings of supply change the amounts, and they leave the switches, which
the first supply that an account has in a reserve turns on, and the last that it gives away turns off.
-/

namespace MoneyMarket

open MoneyMarket.Reserve

/-- By account and reserve: the stored supply, and whether it is used as collateral. -/
@[ext] structure Supplies where
  held : Key → Key → Int
  flagged : Key → Key → Bool

namespace Supplies

variable (s : Supplies) (user asset : Key)

def add (x : Int) : Supplies :=
  { s with held := fun v b => if v = user ∧ b = asset then s.held v b + x else s.held v b }

def switch (enabled : Bool) : Supplies :=
  { s with flagged := fun v b => if v = user ∧ b = asset then enabled else s.flagged v b }

/-- A supply that comes in. The first one is used as collateral. -/
def receive (first : Bool) (x : Int) : Supplies :=
  if first then (s.add user asset x).switch user asset true else s.add user asset x

def retire : Supplies := if s.held user asset = 0 then s.switch user asset false else s

@[simp] theorem add_zero : s.add user asset 0 = s := by
  simp [add]

theorem switch_flagged : s.switch user asset (s.flagged user asset) = s := by
  ext v b
  · rfl
  · show (if v = user ∧ b = asset then s.flagged user asset else s.flagged v b) = s.flagged v b
    split
    · rename_i h
      rw [h.1, h.2]
    · rfl

@[simp] theorem held_add (x : Int) (v b : Key) : (s.add user asset x).held v b =
    if v = user ∧ b = asset then s.held v b + x else s.held v b := rfl

@[simp] theorem held_switch (enabled : Bool) : (s.switch user asset enabled).held = s.held := rfl

@[simp] theorem flagged_add (x : Int) : (s.add user asset x).flagged = s.flagged := rfl

@[simp] theorem flagged_switch (enabled : Bool) (v b : Key) :
    (s.switch user asset enabled).flagged v b =
      if v = user ∧ b = asset then enabled else s.flagged v b := rfl

@[simp] theorem held_receive (first : Bool) (x : Int) :
    (s.receive user asset first x).held = (s.add user asset x).held := by
  cases first <;> rfl

@[simp] theorem flagged_receive (first : Bool) (x : Int) (v b : Key) :
    (s.receive user asset first x).flagged v b =
      if first ∧ v = user ∧ b = asset then true else s.flagged v b := by
  cases first <;> simp [receive]

@[simp] theorem held_retire : (s.retire user asset).held = s.held := by
  unfold retire
  split <;> rfl

theorem retire_of_unflagged {s : Supplies} {user asset : Key} (h : s.flagged user asset = false) : s.retire user asset = s := by
  unfold retire
  rw [← h, switch_flagged, ite_self]

theorem flagged_retire (v b : Key) : (s.retire user asset).flagged v b =
    if s.held user asset = 0 ∧ v = user ∧ b = asset then false else s.flagged v b := by
  unfold retire
  split <;> simp [*]

end Supplies

namespace Ledger

variable {l m : Ledger} {asset user : Name} {now amount x : Int}

def supplies (l : Ledger) : Supplies where
  held user asset := l.amount Position.scaledBalance asset user
  flagged user asset := (l.position? user asset).any (·.usedAsCollateral)

theorem supplies_held (l : Ledger) (user : Key) (asset : Name) :
    l.supplies.held user asset = (l.position user asset).scaledBalance := amount_eq fun _ => rfl

theorem supplies_flagged (l : Ledger) (user : Key) (asset : Name) :
    l.supplies.flagged user asset = (l.position user asset).usedAsCollateral := by
  show (l.position? user asset).any _ = _
  unfold position
  cases l.position? user asset <;> rfl

theorem supplies_setReserve (l : Ledger) (a : Key) (r : Reserve) :
    (l.setReserve a r).supplies = l.supplies := rfl

theorem supplies_setPosition {user : Key} {pos : Position}
    (hheld : pos.scaledBalance = (l.position user asset).scaledBalance + x)
    (hflag : pos.usedAsCollateral = (l.position user asset).usedAsCollateral) :
    (l.setPosition user asset pos).supplies = l.supplies.add user asset x := by
  ext v b
  · show (l.setPosition user asset pos).amount _ b v = _
    rw [amount_setPosition, Supplies.held_add]
    split
    · rename_i h
      rw [hheld, ← supplies_held, h.1, h.2]
    · rfl
  · show ((l.setPosition user asset pos).position? v b).any _ = l.supplies.flagged v b
    rw [position?_setPosition]
    split
    · rename_i h
      rw [h.1, h.2, supplies_flagged, ← hflag]
      rfl
    · rfl

theorem supplies_addHeld (l : Ledger) (user : Key) (asset : Name) (x : Int) :
    (l.modifyPosition user asset fun p => { p with scaledBalance := p.scaledBalance + x }).supplies =
      l.supplies.add user asset x := supplies_setPosition rfl rfl

theorem supplies_openPosition (l : Ledger) (user : Key) (asset : Name) :
    (l.openPosition user asset).supplies = l.supplies := by
  unfold openPosition
  rw [supplies_setPosition (Int.add_zero _).symm rfl, Supplies.add_zero]

theorem supplies_switch (l : Ledger) (user : Key) (asset : Name) (enabled : Bool) :
    (l.modifyPosition user asset fun p => { p with usedAsCollateral := enabled }).supplies =
      l.supplies.switch user asset enabled := by
  ext v b
  · show (l.modifyPosition user asset _).amount _ b v = l.amount _ b v
    rw [amount_modifyPosition_of_eq (fun _ => rfl) rfl]
  · show ((l.setPosition user asset _).position? v b).any _ = _
    rw [position?_setPosition, Supplies.flagged_switch]
    split <;> rfl

/-! ## Bookings -/

theorem supplies_move {rp : WithPosition}
    (hheld : rp.2.scaledBalance = (l.position user asset).scaledBalance + x)
    (hflag : rp.2.usedAsCollateral = (l.position user asset).usedAsCollateral) :
    ((l.openPosition user asset).setWithPosition user asset rp).supplies =
      l.supplies.add user asset x := by
  have hopened : (l.openPosition user asset).position user asset = l.position user asset :=
    position_setPosition _ _ _ _
  have hwritten : (((l.openPosition user asset).setReserve asset rp.1).setPosition user asset
      rp.2).supplies = _ := supplies_setPosition (hopened ▸ hheld) (hopened ▸ hflag)
  exact hwritten.trans (congrArg (·.add user asset x) (supplies_openPosition l user asset))

def Booking.Carries (asset : Key) : Booking → Supplies → Supplies → Prop
  | .mintSupply user _, s, t => ∃ x, 0 ≤ x ∧ t = s.add user asset x
  | .burnSupply user _, s, t => ∃ x, 0 ≤ x ∧ x ≤ s.held user asset ∧ t = s.add user asset (-x)
  | .transferSupply source target _, s, t => ∃ x, 0 ≤ x ∧ x ≤ s.held source asset ∧
    t = (s.add source asset (-x)).add target asset x
  | _, s, t => t = s

theorem bookTransfer_carries {source target : Name}
    (h : l.bookTransfer source target asset amount = ⟨m, none⟩) : ∃ x, 0 ≤ x ∧
      x ≤ l.supplies.held source asset ∧
      m.supplies = (l.supplies.add source asset (-x)).add target asset x := by
  obtain ⟨r, x, _, hx, rfl⟩ := bookTransfer_done h
  have hbounds := scaledShare_bounds hx
  rw [← supplies_held, supplies_openPosition, supplies_openPosition] at hbounds
  refine ⟨x, hbounds.1, hbounds.2, ?_⟩
  simp only [Int.sub_eq_add_neg, supplies_addHeld, supplies_openPosition]

theorem book_carries {b : Booking} (h : l.book asset b = ⟨m, none⟩) :
    b.Carries asset l.supplies m.supplies := by
  -- a debt is in the same position, and leaves the supply
  have debt {user : Name} {rp : WithPosition}
      (hheld : rp.2.scaledBalance = (l.position user asset).scaledBalance)
      (hflag : rp.2.usedAsCollateral = (l.position user asset).usedAsCollateral) :
      ((l.openPosition user asset).setWithPosition user asset rp).supplies = l.supplies := by
    rw [supplies_move (hheld.trans (Int.add_zero _).symm) hflag, Supplies.add_zero]
  cases b with
  | accrue | updateStableRate | money =>
    obtain ⟨_, _, _, _, rfl⟩ := bookReserve_done h
    rfl
  | transferSupply => exact bookTransfer_carries h
  | mintSupply user amount =>
    obtain ⟨r, rp, _, hminted, rfl⟩ := bookStage_done h
    simp only [mintSupply, bind_ok_iff, pure_ok_iff] at hminted
    obtain ⟨x, hx, rfl⟩ := hminted
    exact ⟨x, FixedPoint.rayDiv_nonneg hx, supplies_move rfl rfl⟩
  | burnSupply user amount =>
    obtain ⟨r, rp, _, hburned, rfl⟩ := bookStage_done h
    simp only [burnSupply, bind_ok_iff, pure_ok_iff] at hburned
    obtain ⟨x, hx, rfl⟩ := hburned
    obtain ⟨hnonneg, hle⟩ := scaledShare_bounds hx
    exact ⟨x, hnonneg, supplies_held l user asset ▸ hle, supplies_move Int.sub_eq_add_neg rfl⟩
  | mintVariableDebt user amount =>
    obtain ⟨r, rp, _, hminted, rfl⟩ := bookStage_done h
    simp only [mintVariableDebt, bind_ok_iff, pure_ok_iff] at hminted
    obtain ⟨_, _, rfl⟩ := hminted
    exact debt rfl rfl
  | burnVariableDebt user amount =>
    obtain ⟨r, rp, _, hburned, rfl⟩ := bookStage_done h
    simp only [burnVariableDebt, bind_ok_iff, pure_ok_iff] at hburned
    obtain ⟨_, _, rfl⟩ := hburned
    exact debt rfl rfl
  | mintStableDebt user amount rate now =>
    obtain ⟨r, rp, _, hdone, rfl⟩ := bookPosition_done h
    simp only [stableDebtStages, Stage.perform_cons_ok] at hdone
    obtain ⟨_, hlent, _, haveraged, hdone⟩ := hdone
    cases hdone
    obtain ⟨_, _, _, _, rfl⟩ := lendStable_ok hlent
    obtain ⟨_, _, rfl⟩ := averageInStable_ok haveraged
    exact debt rfl rfl
  | burnStableDebt user amount now =>
    obtain ⟨r, rp, _, hburned, rfl⟩ := bookStage_done h
    obtain ⟨_, _, _, _, _, rfl, _⟩ := burnStableDebt_ok hburned
    exact debt rfl rfl

end Ledger

/-! ## Work -/

def LiquidationCall.receiver? (c : LiquidationCall) : Option Key :=
  if c.receiveUnderlying then none else c.liquidator.name?.map Name.key

/-- A part of a supply is seized, and is paid out or given to another account. -/
def Supplies.seize (s : Supplies) (borrower asset : Key) (receiver : Option Key) (x : Int) : Supplies :=
  let left := s.add borrower asset (-x)
  match receiver with
  | none => left.retire borrower asset
  | some v => (left.receive v asset (s.held v asset = 0) x).retire borrower asset

namespace Supplies

variable (s : Supplies) {borrower asset v : Key} (x : Int)

theorem flagged_seize (receiver : Option Key) (u a : Key) :
    (s.seize borrower asset receiver x).flagged u a =
      if (s.seize borrower asset receiver x).held borrower asset = 0 ∧ u = borrower ∧ a = asset then
        false
      else if receiver = some u ∧ s.held u asset = 0 ∧ a = asset then true
      else s.flagged u a := by
  unfold seize
  cases receiver with
  | none => simp [flagged_retire]
  | some v =>
    have hreceiver : (some v = some u ∧ s.held u asset = 0 ∧ a = asset) ↔
        (s.held v asset = 0 ∧ u = v ∧ a = asset) := by
      constructor
      · rintro ⟨hv, hnone, ha⟩
        cases hv
        exact ⟨hnone, rfl, ha⟩
      · rintro ⟨hnone, rfl, ha⟩
        exact ⟨rfl, hnone, ha⟩
    simp only [flagged_retire, held_retire, flagged_receive, flagged_add, decide_eq_true_eq, hreceiver]

theorem seize_other (h : v ≠ borrower) : s.seize borrower asset (some v) x =
    ((s.add borrower asset (-x)).retire borrower asset).receive v asset (s.held v asset = 0) x := by
  ext u a
  · simp [seize]
  · simp only [seize, flagged_retire, flagged_receive, held_receive, held_add, flagged_add]
    by_cases hv : u = v ∧ a = asset
    · have hu : ¬ (u = borrower ∧ a = asset) := fun h' => h (hv.1.symm.trans h'.1)
      simp [hu]
    · simp [hv, Ne.symm h]

theorem seize_own (hsome : s.held borrower asset ≠ 0) :
    s.seize borrower asset (some borrower) x = s := by
  have hback : (s.add borrower asset (-x)).add borrower asset x = s := by
    ext u a
    · simp only [held_add]
      split <;> omega
    · rfl
  simp only [seize, receive, hsome, decide_false, Bool.false_eq_true, if_false, hback]
  rw [retire, if_neg hsome]

end Supplies

namespace LedgerWork

open MoneyMarket.Ledger MoneyMarket.Pool

variable {l m : Ledger} {asset user : Name} {now amount : Int} {u : Unit}

theorem bookDeposit_supplies {first : Bool} (h : bookDeposit asset amount user now l = .ok first m) :
    first = decide (l.supplies.held user asset = 0) ∧
      ∃ x, 0 ≤ x ∧ m.supplies = l.supplies.receive user asset first x := by
  obtain ⟨l₁, l₂, l₃, hfirst, haccrue, hmoney, hmint, hagain⟩ := bookDeposit_ok h
  have h₁ : l₁.supplies = l.supplies := book_carries haccrue
  have h₂ : l₂.supplies = l₁.supplies := book_carries hmoney
  obtain ⟨x, hx, h₃⟩ : ∃ x, 0 ≤ x ∧ l₃.supplies = l₂.supplies.add user asset x := book_carries hmint
  have hm : m.supplies = _ := book_carries hagain
  refine ⟨by rw [hfirst, ← supplies_held, h₁], x, hx, ?_⟩
  rw [hm]
  unfold Supplies.receive
  split
  · rw [supplies_switch, h₃, h₂, h₁]
  · rw [h₃, h₂, h₁]

theorem Booked.supplies {work : LedgerWork Unit} {change : Int} (h : Booked asset now work change l m)
    {R : Supplies → Supplies → Prop}
    (hwork : ∀ l m, work l = .ok () m → R l.supplies m.supplies) : R l.supplies m.supplies := by
  obtain ⟨l₁, l₂, l₃, haccrue, hdone, hmoney, hagain⟩ := h
  have h₁ : l₁.supplies = l.supplies := book_carries haccrue
  have h₃ : l₃.supplies = l₂.supplies := book_carries hmoney
  have hm : m.supplies = l₃.supplies := book_carries hagain
  rw [hm, h₃, ← h₁]
  exact hwork _ _ hdone

theorem bookWithdrawal_supplies (h : bookWithdrawal asset amount user now l = .ok u m) :
    ∃ x, 0 ≤ x ∧ x ≤ l.supplies.held user asset ∧ m.supplies = l.supplies.add user asset (-x) :=
  (bookWithdrawal_booked h).supplies (R := (Booking.burnSupply user amount).Carries asset)
    fun _ _ hw => book_carries (book_done hw)

theorem bookLoan_supplies {mode : RateMode} {rate : Int}
    (h : bookLoan asset amount mode user now l = .ok rate m) : m.supplies = l.supplies :=
  (bookLoan_booked h).supplies (R := fun s t => t = s) fun _ _ hw => by
    cases mode <;> exact book_carries (book_done hw)

theorem bookRepayment_supplies {mode : RateMode}
    (h : bookRepayment asset amount mode user now l = .ok u m) : m.supplies = l.supplies :=
  (bookRepayment_booked h).supplies (R := fun s t => t = s) fun _ _ hw => by
    cases mode <;> exact book_carries (book_done hw)

/-! ## Liquidations -/

theorem repayDebt_supplies (h : repayDebt user asset amount now l = .ok u m) :
    m.supplies = l.supplies := by
  obtain ⟨stable, k, _, hburn, hrest⟩ := repayDebt_completed h
  have hk : k.supplies = l.supplies := by
    rw [← supplies_openPosition l user asset]
    split at hburn
    · exact book_carries hburn
    · rw [hburn]
  rw [← hk]
  split at hrest
  · exact book_carries hrest
  · rw [hrest]

theorem settleDebt_supplies (h : settleDebt user asset amount now l = .ok u m) :
    m.supplies = l.supplies :=
  (settleDebt_booked h).supplies (R := fun s t => t = s) fun _ _ => repayDebt_supplies

theorem payOutCollateral_supplies (h : payOutCollateral user asset amount l = .ok u m) :
    ∃ x, 0 ≤ x ∧ x ≤ l.supplies.held user asset ∧ m.supplies = l.supplies.add user asset (-x) := by
  obtain ⟨k, hburn, hmoney⟩ := payOutCollateral_completed h
  have hm : m.supplies = k.supplies := book_carries hmoney
  rw [hm]
  exact book_carries hburn

theorem handOverCollateral_supplies {liquidator : Json}
    (h : handOverCollateral user asset liquidator amount l = .ok u m) : ∃ (name : Name) (x : Int),
      liquidator.name? = some name ∧ 0 ≤ x ∧ x ≤ l.supplies.held user asset ∧
      m.supplies = (l.supplies.add user asset (-x)).receive name asset
        (l.supplies.held name asset = 0) x := by
  obtain ⟨name, k, hname, htransfer, rfl⟩ := handOverCollateral_completed h
  obtain ⟨x, hnonneg, hle, hk⟩ : ∃ x, 0 ≤ x ∧ x ≤ l.supplies.held user asset ∧
    k.supplies = (l.supplies.add user asset (-x)).add name asset x := book_carries htransfer
  refine ⟨name, x, ?_, hnonneg, hle, ?_⟩
  · unfold Json.named at hname
    split at hname
    · cases hname
      assumption
    · cases hname
  · rw [supplies_held]
    unfold Supplies.receive
    by_cases hfirst : (l.position name asset).scaledBalance = 0
    · rw [if_pos hfirst, supplies_switch, hk, if_pos (decide_eq_true hfirst)]
    · rw [if_neg hfirst, hk, if_neg (by simpa using hfirst)]

theorem retireEmptyCollateral_supplies (h : retireEmptyCollateral user asset l = .ok u m) :
    m.supplies = l.supplies.retire user asset := by
  rw [retireEmptyCollateral_completed h]
  unfold Supplies.retire
  rw [supplies_held]
  split
  · exact supplies_switch _ _ _ _
  · rfl

theorem moveCollateral_supplies {c : LiquidationCall} (h : moveCollateral c amount now l = .ok u m) :
    ∃ x, 0 ≤ x ∧ x ≤ l.supplies.held c.borrower c.collateralAsset ∧
      m.supplies = l.supplies.seize c.borrower c.collateralAsset c.receiver? x := by
  obtain ⟨l₁, l₂, l₃, haccrue, htake, hagain, hretire⟩ := moveCollateral_done h
  have h₁ : l₁.supplies = l.supplies := book_carries haccrue
  have h₃ : l₃.supplies = l₂.supplies := book_carries hagain
  have hm := retireEmptyCollateral_supplies hretire
  rw [hm, h₃, ← h₁]
  unfold Supplies.seize LiquidationCall.receiver?
  split at htake
  · obtain ⟨x, hnonneg, hle, h₂⟩ := payOutCollateral_supplies htake
    rw [if_pos ‹_›]
    exact ⟨x, hnonneg, hle, by rw [h₂]⟩
  · obtain ⟨name, x, hname, hnonneg, hle, h₂⟩ := handOverCollateral_supplies htake
    rw [if_neg ‹_›, hname]
    exact ⟨x, hnonneg, hle, by rw [h₂]; rfl⟩

end LedgerWork

/-! ## The treasury -/

/-- Supplies that have only become more, and are used as before. -/
structure Supplies.Grows (s t : Supplies) : Prop where
  held : ∀ user asset, s.held user asset ≤ t.held user asset
  flagged : t.flagged = s.flagged

theorem Supplies.Grows.refl (s : Supplies) : s.Grows s := ⟨fun _ _ => Int.le_refl _, rfl⟩

theorem Supplies.Grows.trans {s t r : Supplies} (h : s.Grows t) (h' : t.Grows r) : s.Grows r :=
  ⟨fun v b => Int.le_trans (h.held v b) (h'.held v b), h'.flagged.trans h.flagged⟩

namespace Ledger

theorem creditTreasuryIn_grows {l : Ledger} (hl : Sound l) (treasury a : Key) :
    l.supplies.Grows (Pool.creditTreasuryIn treasury l a).supplies := by
  unfold Pool.creditTreasuryIn
  split
  · exact .refl _
  · rename_i r hr
    split
    · exact .refl _
    · have hcredit := hl.credit a r hr
      rw [supplies_setReserve, supplies_addHeld]
      refine ⟨fun v b => ?_, rfl⟩
      rw [Supplies.held_add]
      split <;> omega

theorem creditTreasury_grows {l : Ledger} (hl : Sound l) (treasury : Key) :
    l.supplies.Grows (Pool.creditTreasury treasury l).supplies := by
  unfold Pool.creditTreasury
  generalize l.reserves.keys = keys
  induction keys generalizing l with
  | nil => exact .refl _
  | cons a rest ih =>
    have hfirst := creditTreasuryIn_grows hl treasury a
    have hpaid : Steps True l (Pool.creditTreasuryIn treasury l a) :=
      Pool.creditTreasuryIn_steps treasury l a
    exact hfirst.trans (ih (hpaid.sound hl))

end Ledger

end MoneyMarket
