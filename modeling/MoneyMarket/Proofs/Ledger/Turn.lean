import MoneyMarket.Proofs.Ledger.Work
import MoneyMarket.Proofs.Pool.ScaledClaims
import MoneyMarket.Proofs.Reserve.Projection

/-!
# Turns of a ledger

Work that is done has done every accrual as a whole, and has written only to the positions of the
accounts that it is about. A turn is a step of such work. All turns of one piece of work have one
time: a ledger that had no reserve ahead of it has none afterwards.
-/

namespace MoneyMarket

open MoneyMarket.Reserve

namespace Ledger

/-- A step at a time that is done as a whole, and writes to positions of `named` accounts only. -/
inductive Turn (now : Int) (named : Key → Prop) : Ledger → Ledger → Prop
  | accrue {l : Ledger} {a : Key} {r s : Reserve} (hr : l.reserve? a = some r)
      (hs : r.accrue now = .ok s) : Turn now named l (l.setReserve a s)
  | money {l : Ledger} {a : Key} {r : Reserve} (hr : l.reserve? a = some r) (change : Int) :
      Turn now named l
        (l.setReserve a { r with availableLiquidity := r.availableLiquidity + change })
  | move {l : Ledger} {user asset : Name} {r : Reserve} {rp : WithPosition} (hu : named user)
      (hr : l.reserve? asset = some r) (hm : Moved True r (l.position user asset) rp) :
      Turn now named l ((l.openPosition user asset).setWithPosition user asset rp)
  | handOver {l : Ledger} {source target asset : Name} {r : Reserve} {x : Int}
      (hs : named source) (ht : named target) (hr : l.reserve? asset = some r) (hx : 0 ≤ x)
      (hp : x ≤ (l.position source asset).scaledBalance) :
      Turn now named l
        ((l.modifyPosition source asset fun p =>
            { p with scaledBalance := p.scaledBalance - x }).modifyPosition target asset fun p =>
          { p with scaledBalance := p.scaledBalance + x })
  | openPosition {l : Ledger} {user : Name} (hu : named user) (asset : Name) :
      Turn now named l (l.openPosition user asset)
  | switch {l : Ledger} {user : Name} (hu : named user) (asset : Name) (enabled : Bool) :
      Turn now named l
        (l.modifyPosition user asset fun p => { p with usedAsCollateral := enabled })
  | switchMargin {l : Ledger} {user : Key} (hu : named user) (enabled : Bool) :
      Turn now named l (l.setUsesMargin user enabled)

abbrev Turns (now : Int) (named : Key → Prop) : Ledger → Ledger → Prop :=
  Relation.ReflTransGen (Turn now named)

variable {now : Int} {named : Key → Prop} {l m : Ledger}

theorem Turn.step (h : Turn now named l m) : Step True l m := by
  cases h with
  | accrue hr hs => exact .accrue hr (accrue_accrued hs)
  | money hr change => exact .money hr change
  | move _ hr hm => exact .move hr hm
  | handOver _ _ hr hx hp => exact .handOver hr hx hp
  | openPosition _ asset => exact .openPosition _ asset
  | switch _ asset enabled => exact .switch _ asset enabled
  | switchMargin _ enabled => exact .switchMargin _ enabled

theorem Turns.preserves {I : Ledger → Prop} (h : ∀ {l m}, Turn now named l m → I l → I m)
    (ht : Turns now named l m) (hl : I l) : I m := by
  induction ht with
  | refl => exact hl
  | tail _ hturn ih => exact h hturn ih

/-! ## Bookings -/

theorem book_turns {asset : Name} {b : Booking} (hb : b.Allowed now named True)
    (h : l.book asset b = ⟨m, none⟩) : Turns now named l m := by
  -- a stage on one position is one turn
  have single {user : Name} (hu : named user) {stage : Stage WithPosition}
      (hstage : ∀ r p rp, stage (r, p) = .ok rp → Moved True r p rp)
      (h : l.bookPosition user asset [stage] = ⟨m, none⟩) : Turns now named l m := by
    obtain ⟨r, rp, hr, hrp, rfl⟩ := bookStage_done h
    exact .single (.move hu hr (hstage _ _ _ hrp))
  cases b with
  | accrue time =>
    obtain rfl : time = now := hb
    obtain ⟨r, s, hr, hs, rfl⟩ := bookReserve_done h
    exact .single (.accrue hr hs)
  | updateStableRate => exact hb.elim
  | money change =>
    obtain ⟨r, s, hr, hs, rfl⟩ := bookReserve_done h
    cases hs
    exact .single (.money hr change)
  | mintSupply => exact single hb (fun _ _ _ => mintSupply_moved) h
  | burnSupply => exact single hb (fun _ _ _ => burnSupply_moved) h
  | mintVariableDebt => exact single hb (fun _ _ _ => mintVariableDebt_moved) h
  | burnVariableDebt => exact single hb (fun _ _ _ => burnVariableDebt_moved) h
  | burnStableDebt => exact single hb.2.1 (fun _ _ _ => burnStableDebt_moved trivial) h
  | mintStableDebt user amount rate time =>
    obtain ⟨r, rp, hr, hdone, rfl⟩ := bookPosition_done h
    exact .single (.move hb.2.1 hr (mintStableDebt_moved trivial hdone))
  | transferSupply source target amount =>
    obtain ⟨r, x, hr, hx, rfl⟩ := bookTransfer_done h
    have hbounds := scaledShare_bounds hx
    have hopen : Turns now named l ((l.openPosition source asset).openPosition target asset) :=
      (Relation.ReflTransGen.single (.openPosition hb.1 asset)).tail (.openPosition hb.2 asset)
    exact hopen.tail (.handOver hb.1 hb.2 hr hbounds.1 hbounds.2)

/-! ## Time -/

/-- Supplies and debts add up, and no reserve is ahead of the time. -/
structure Timely (now : Int) (l : Ledger) : Prop where
  balanced : Balanced l
  running : ∀ a r, l.reserve? a = some r → Running now r

theorem Timely.later {later : Int} (h : Timely now l) (hle : now ≤ later) : Timely later l :=
  ⟨h.balanced, fun a r hr => (h.running a r hr).later hle⟩

theorem Timely.creditTreasury (h : Timely now l) (treasury : Key) :
    Timely now (Pool.creditTreasury treasury l) := by
  have hpaid : Steps True l (Pool.creditTreasury treasury l) := Pool.creditTreasury_steps treasury l
  refine ⟨h.balanced.steps hpaid, ?_⟩
  intro a r hr
  rw [Pool.reserve?_creditTreasury] at hr
  obtain ⟨s, hs, rfl⟩ := Option.map_eq_some_iff.1 hr
  have hs := h.running a s hs
  exact ⟨hs.rate, hs.income, hs.debt, hs.updated⟩

theorem running_setReserve (hl : ∀ b s, l.reserve? b = some s → Running now s) {a : Key}
    {r : Reserve} (hr : Running now r) :
    ∀ b s, (l.setReserve a r).reserve? b = some s → Running now s := by
  intro b s hs
  rw [reserve?_setReserve] at hs
  split at hs
  · cases hs
    exact hr
  · exact hl b s hs

theorem Turn.timely (h : Turn now named l m) (hl : Timely now l) : Timely now m := by
  refine ⟨Balanced.steps (.single h.step) hl.balanced, ?_⟩
  have hrunning := hl.running
  cases h with
  | accrue hr hs => exact running_setReserve hrunning ((hrunning _ _ hr).updated_of_accrue hs).running
  | money hr change =>
    have hr := hrunning _ _ hr
    exact running_setReserve hrunning ⟨hr.rate, hr.income, hr.debt, hr.updated⟩
  | @move user asset r rp _ hr hm =>
    exact running_setReserve (l := l.openPosition user asset) hrunning (hm.running (hrunning _ _ hr))
  | handOver | openPosition | switch | switchMargin => exact hrunning

theorem Turns.timely (h : Turns now named l m) (hl : Timely now l) : Timely now m :=
  h.preserves (fun hturn hl => hturn.timely hl) hl

theorem Timely.counted (hl : Timely now l) {user a : Key} {pos : Position} {r : Reserve}
    (hpos : l.position? user a = some pos) (hr : l.reserve? a = some r) :
    0 ≤ pos.scaledVariableDebt ∧ (pos.scaledVariableDebt ≠ 0 → 0 < r.scaledVariableDebt) := by
  have hamount : l.amount Position.scaledVariableDebt a user = pos.scaledVariableDebt := by
    rw [amount, hpos]
    rfl
  have hnonneg := hl.balanced.debt.nonneg a user
  have hle := amount_le_total hl.balanced.debt.nonneg a user
  rw [hl.balanced.debt.total, owed_eq hr] at hle
  rw [hamount] at hnonneg hle
  exact ⟨hnonneg, fun hne => by omega⟩

theorem Timely.held (hl : Timely now l) {user a : Key} {pos : Position}
    (hpos : l.position? user a = some pos) : 0 ≤ pos.scaledBalance := by
  have hamount := hl.balanced.supply.nonneg a user
  rw [amount, hpos] at hamount
  exact hamount

theorem Timely.supply_nonneg (hl : Timely now l) (user : Key) (asset : Name) :
    0 ≤ (l.position user asset).scaledBalance := by
  have hheld := hl.balanced.supply.nonneg asset user
  rwa [amount_eq fun _ => rfl] at hheld

theorem Timely.debt_nonneg (hl : Timely now l) (user : Key) (asset : Name) :
    0 ≤ (l.position user asset).scaledVariableDebt := by
  have hheld := hl.balanced.debt.nonneg asset user
  rwa [amount_eq fun _ => rfl] at hheld

theorem Timely.counted_position (hl : Timely now l) {user asset : Name} {r : Reserve}
    (hr : l.reserve? asset = some r) (howes : (l.position user asset).scaledVariableDebt ≠ 0) :
    0 < r.scaledVariableDebt := by
  unfold Ledger.position at howes
  cases hpos : l.position? user asset with
  | some pos =>
    rw [hpos] at howes
    exact (hl.counted hpos hr).2 howes
  | none =>
    rw [hpos] at howes
    exact absurd rfl howes

end Ledger

theorem LedgerWork.permits_turns (now : Int) (named : Key → Prop) :
    Permits (Leads (Ledger.Turns now named)) now named True := by
  apply permits_leads
  · intro _
    exact .refl
  · intro _ _ _ h h'
    exact h.trans h'
  · intro _ user asset hu
    exact .single (.openPosition hu asset)
  · intro _ user asset enabled hu
    exact .single (.switch hu asset enabled)
  · intro _ user enabled hu
    exact .single (.switchMargin hu enabled)
  · intro _ _ asset b hb h
    exact Ledger.book_turns hb h

end MoneyMarket
