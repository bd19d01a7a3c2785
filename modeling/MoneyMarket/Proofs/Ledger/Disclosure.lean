import MoneyMarket.Proofs.Ledger.Conservation
import MoneyMarket.Proofs.Rates

/-!
# What can be followed from outside

The money in each reserve and the users who opted in to margin collateral. Of all bookings only
those of money change the first, and none changes the second. Each piece of work brings one amount
into one reserve, and ends with an accrual, which no reserve passes with less than nothing.
-/

namespace MoneyMarket

open MoneyMarket.Reserve

@[ext] structure Disclosed where
  money : Key → Int
  optedIn : Key → Bool

namespace Disclosed

def receive (d : Disclosed) (asset : Key) (amount : Int) : Disclosed :=
  { d with money := fun a => d.money a + if a = asset then amount else 0 }

def choose (d : Disclosed) (user : Key) (enabled : Bool) : Disclosed :=
  { d with optedIn := fun u => if u = user then enabled else d.optedIn u }

@[simp] theorem receive_zero (d : Disclosed) (asset : Key) : d.receive asset 0 = d := by
  simp [receive]

end Disclosed

/-! ## Bookings -/

theorem Reserve.Moved.availableLiquidity {loans : Prop} {r : Reserve} {p : Position}
    {rp : WithPosition} (h : Moved loans r p rp) :
    rp.1.availableLiquidity = r.availableLiquidity := by
  cases h <;> rfl

theorem Reserve.accrue_liquidity {r s : Reserve} {now : Int} (h : r.accrue now = .ok s) :
    0 ≤ s.availableLiquidity := by
  obtain ⟨_, _, r₃, _, -, _, _, _, hderive, rfl⟩ := accrue_stages h
  simp only [deriveRates, derivedRates, bind_ok_iff, pure_ok_iff] at hderive
  obtain ⟨_, ⟨_, _, _, _, hrates⟩, rfl⟩ := hderive
  exact (RateStrategy.rates_input hrates).1.1

namespace Ledger

def Booking.inflow : Booking → Int
  | .money change => change
  | _ => 0

def disclosed (l : Ledger) : Disclosed := ⟨l.owed Reserve.availableLiquidity, l.usesMargin⟩

variable {l m n : Ledger} {asset user : Name} {now amount : Int}

theorem disclosed_setReserve {a : Key} {r s : Reserve} (hr : l.reserve? a = some r) {x : Int}
    (hs : s.availableLiquidity = r.availableLiquidity + x) :
    (l.setReserve a s).disclosed = l.disclosed.receive a x := by
  ext b
  · show (l.setReserve a s).owed _ b = l.owed _ b + if b = a then x else 0
    rw [owed_setReserve]
    split
    · rename_i hb
      rw [hb, owed_eq hr, hs]
    · rw [Int.add_zero]
  · rfl

theorem disclosed_setPosition (l : Ledger) (u a : Key) (p : Position) :
    (l.setPosition u a p).disclosed = l.disclosed := rfl

theorem disclosed_setUsesMargin (l : Ledger) (u : Key) (enabled : Bool) :
    (l.setUsesMargin u enabled).disclosed = l.disclosed.choose u enabled := by
  ext1
  · rfl
  · exact funext fun v => usesMargin_setUsesMargin l u v enabled

theorem disclosed_move {r : Reserve} {rp : WithPosition} (hr : l.reserve? asset = some r)
    (hrp : rp.1.availableLiquidity = r.availableLiquidity) :
    ((l.openPosition user asset).setWithPosition user asset rp).disclosed = l.disclosed := by
  have hwritten := disclosed_setReserve (l := l.openPosition user asset) hr (x := 0)
    (hrp.trans (Int.add_zero _).symm)
  rw [Disclosed.receive_zero] at hwritten
  exact hwritten

theorem disclosed_book {b : Booking} (h : l.book asset b = ⟨m, none⟩) :
    m.disclosed = l.disclosed.receive asset b.inflow := by
  have single {user : Name} {stage : Stage WithPosition}
      (hstage : ∀ r p rp, stage (r, p) = .ok rp → Moved True r p rp)
      (h : l.bookPosition user asset [stage] = ⟨m, none⟩) : m.disclosed = l.disclosed := by
    obtain ⟨r, rp, hr, hrp, rfl⟩ := bookStage_done h
    exact disclosed_move hr (hstage _ _ _ hrp).availableLiquidity
  cases b <;> simp only [Booking.inflow, Disclosed.receive_zero]
  case accrue =>
    obtain ⟨r, s, hr, hs, rfl⟩ := bookReserve_done h
    simpa using disclosed_setReserve hr (x := 0) (by simpa using (accrue_accrued hs).availableLiquidity)
  case updateStableRate =>
    obtain ⟨r, s, hr, hs, rfl⟩ := bookReserve_done h
    obtain ⟨_, hs, hdone⟩ := Stage.perform_cons_ok.1 hs
    cases hdone
    obtain ⟨_, _, _, _, _, rfl⟩ := updateStableRate_ok_iff.1 hs
    simpa using disclosed_setReserve (s := r.withLoan _) hr (x := 0) (Int.add_zero _).symm
  case money =>
    obtain ⟨r, s, hr, hs, rfl⟩ := bookReserve_done h
    cases hs
    exact disclosed_setReserve hr rfl
  case mintSupply => exact single (fun _ _ _ => mintSupply_moved) h
  case burnSupply => exact single (fun _ _ _ => burnSupply_moved) h
  case mintVariableDebt => exact single (fun _ _ _ => mintVariableDebt_moved) h
  case burnVariableDebt => exact single (fun _ _ _ => burnVariableDebt_moved) h
  case burnStableDebt => exact single (fun _ _ _ => burnStableDebt_moved trivial) h
  case mintStableDebt =>
    obtain ⟨r, rp, hr, hdone, rfl⟩ := bookPosition_done h
    simp only [stableDebtStages, Stage.perform_cons_ok] at hdone
    obtain ⟨_, hlent, _, haveraged, hdone⟩ := hdone
    cases hdone
    obtain ⟨_, _, _, _, rfl⟩ := lendStable_ok hlent
    obtain ⟨_, hs, rfl⟩ := averageInStable_ok haveraged
    obtain ⟨_, _, _, _, _, rfl⟩ := updateStableRate_ok_iff.1 hs
    exact disclosed_move hr rfl
  case transferSupply =>
    obtain ⟨_, _, _, _, rfl⟩ := bookTransfer_done h
    rfl

/-! ## Work -/

/-- Between the two ledgers an amount has come into the reserve, which has no less than nothing. -/
structure Brings (asset : Key) (amount : Int) (l m : Ledger) : Prop where
  disclosed : m.disclosed = l.disclosed.receive asset amount
  covered : 0 ≤ m.disclosed.money asset

theorem Brings.covers {a : Key} (h : Brings a amount l m) {b : Key} (hb : 0 ≤ l.disclosed.money b) :
    0 ≤ m.disclosed.money b := by
  by_cases hab : b = a
  · exact hab ▸ h.covered
  · rw [h.disclosed]
    simpa [Disclosed.receive, hab] using hb

theorem brings_of_accrue (hn : n.disclosed = l.disclosed.receive asset amount)
    (h : n.book asset (.accrue now) = ⟨m, none⟩) : Brings asset amount l m := by
  have hm : m.disclosed = n.disclosed.receive asset 0 := disclosed_book h
  refine ⟨by rw [hm, Disclosed.receive_zero, hn], ?_⟩
  obtain ⟨_, s, _, hs, rfl⟩ := bookReserve_done h
  show 0 ≤ (n.setReserve asset s).owed Reserve.availableLiquidity asset
  rw [owed_setReserve, if_pos rfl]
  exact accrue_liquidity hs

end Ledger

namespace LedgerWork

open MoneyMarket.Ledger MoneyMarket.Pool

variable {l m : Ledger} {asset user : Name} {now amount : Int} {u : Unit}

theorem bookDeposit_brings {first : Bool} (h : bookDeposit asset amount user now l = .ok first m) :
    Brings asset amount l m := by
  obtain ⟨l₁, l₂, l₃, _, haccrue, hmoney, hmint, hagain⟩ := bookDeposit_ok h
  have hminted : l₃.disclosed = l.disclosed.receive asset amount := by
    rw [disclosed_book hmint, disclosed_book hmoney, disclosed_book haccrue]
    simp [Booking.inflow]
  refine brings_of_accrue ?_ hagain
  cases first <;> exact hminted

theorem Booked.brings {work : LedgerWork Unit} (h : Booked asset now work amount l m)
    (hwork : ∀ l m, work l = .ok () m → m.disclosed = l.disclosed) : Brings asset amount l m := by
  obtain ⟨l₁, l₂, l₃, haccrue, hdone, hmoney, hagain⟩ := h
  refine brings_of_accrue ?_ hagain
  rw [disclosed_book hmoney, hwork _ _ hdone, disclosed_book haccrue]
  simp [Booking.inflow]

theorem book_disclosed {b : Booking} (hb : b.inflow = 0) (l m : Ledger)
    (h : book asset b l = .ok () m) : m.disclosed = l.disclosed := by
  rw [disclosed_book (book_done h), hb, Disclosed.receive_zero]

theorem bookWithdrawal_brings (h : bookWithdrawal asset amount user now l = .ok u m) :
    Brings asset (-amount) l m :=
  (bookWithdrawal_booked h).brings (book_disclosed rfl)

theorem bookLoan_brings {mode : RateMode} {rate : Int}
    (h : bookLoan asset amount mode user now l = .ok rate m) : Brings asset (-amount) l m :=
  (bookLoan_booked h).brings (book_disclosed (by cases mode <;> rfl))

theorem bookRepayment_brings {mode : RateMode}
    (h : bookRepayment asset amount mode user now l = .ok u m) : Brings asset amount l m :=
  (bookRepayment_booked h).brings (book_disclosed (by cases mode <;> rfl))

/-! ## Liquidations -/

theorem repayDebt_disclosed (h : repayDebt user asset amount now l = .ok u m) :
    m.disclosed = l.disclosed := by
  obtain ⟨stable, k, _, hburn, hrest⟩ := repayDebt_completed h
  have hopened : (l.openPosition user asset).disclosed = l.disclosed := rfl
  have hk : k.disclosed = l.disclosed := by
    split at hburn
    · rw [disclosed_book hburn, hopened]
      exact Disclosed.receive_zero _ _
    · rw [hburn, hopened]
  split at hrest
  · rw [disclosed_book hrest, hk]
    exact Disclosed.receive_zero _ _
  · rw [hrest, hk]

theorem settleDebt_brings (h : settleDebt user asset amount now l = .ok u m) :
    Brings asset amount l m :=
  (settleDebt_booked h).brings fun _ _ => repayDebt_disclosed

theorem payOutCollateral_disclosed (h : payOutCollateral user asset amount l = .ok u m) :
    m.disclosed = l.disclosed.receive asset (-amount) := by
  obtain ⟨k, hburn, hmoney⟩ := payOutCollateral_completed h
  rw [disclosed_book hmoney, disclosed_book hburn]
  simp [Booking.inflow]

theorem handOverCollateral_disclosed {liquidator : Json}
    (h : handOverCollateral user asset liquidator amount l = .ok u m) :
    m.disclosed = l.disclosed := by
  obtain ⟨name, k, _, htransfer, rfl⟩ := handOverCollateral_completed h
  have htransferred : k.disclosed = l.disclosed := by
    simpa [Booking.inflow] using disclosed_book htransfer
  rw [← htransferred]
  split <;> rfl

theorem retireEmptyCollateral_disclosed (h : retireEmptyCollateral user asset l = .ok u m) :
    m.disclosed = l.disclosed := by
  rw [retireEmptyCollateral_completed h]
  split <;> rfl

/-- Only collateral that is asked for as money leaves the reserve. -/
theorem moveCollateral_brings {c : LiquidationCall} (h : moveCollateral c amount now l = .ok u m) :
    Brings c.collateralAsset (if c.receiveUnderlying then -amount else 0) l m := by
  obtain ⟨l₁, l₂, l₃, haccrue, htake, hagain, hretire⟩ := moveCollateral_done h
  have htaken : l₂.disclosed = l₁.disclosed.receive c.collateralAsset
      (if c.receiveUnderlying then -amount else 0) := by
    split at htake
    · rw [payOutCollateral_disclosed htake, if_pos ‹_›]
    · rw [handOverCollateral_disclosed htake, if_neg ‹_›, Disclosed.receive_zero]
  have hbrings : Brings c.collateralAsset (if c.receiveUnderlying then -amount else 0) l l₃ := by
    refine brings_of_accrue ?_ hagain
    rw [htaken, disclosed_book haccrue]
    simp [Booking.inflow]
  have hretired := retireEmptyCollateral_disclosed hretire
  exact ⟨hretired ▸ hbrings.disclosed, hretired ▸ hbrings.covered⟩

end LedgerWork

end MoneyMarket
