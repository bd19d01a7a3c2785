import MoneyMarket.Proofs.Ledger.Readable
import MoneyMarket.Proofs.Ledger.Settling
import MoneyMarket.Proofs.Reserve.Shares

/-!
# Movements

What an account has in a reserve it holds as supply, owes at the floating rate or owes at a stable
one. An amount that it moves goes into one of these or comes out of it, and the other two stay: into
supply and floating debt it goes as a share, into a stable debt as it is.
-/

namespace MoneyMarket

open MoneyMarket.FixedPoint MoneyMarket.LedgerWork MoneyMarket.Pool MoneyMarket.Reserve

inductive Holding where
  | supply
  | floating
  | stable
  deriving DecidableEq

def RateMode.holding : RateMode → Holding
  | .stable => .stable
  | .floating => .floating

namespace Position

def shown (pos : Position) (r : Reserve) (now : Int) : Holding → Except Fault Int
  | .supply => pos.supplyBalance r now
  | .floating => pos.variableDebt r now
  | .stable => pos.stableDebt now

/-- An amount moves into one of the holdings, or out of it, which counts as less than nothing. A
supply that is taken out to the last of it is no collateral any more, and a stable debt that is
repaid to the last of it has no rate. -/
inductive Moves (now : Int) (r : Reserve) (pos : Position) : Holding → Int → Position → Prop
  | supply {moved stored : Int} {enabled : Bool}
      (h : Shifts r.liquidityIndex pos.scaledBalance moved stored)
      (hempty : moved < 0 → stored = 0 → enabled = false) :
      Moves now r pos .supply moved
        { pos with scaledBalance := stored, usedAsCollateral := enabled }
  | floating {moved stored : Int}
      (h : Shifts r.variableBorrowIndex pos.scaledVariableDebt moved stored) :
      Moves now r pos .floating moved { pos with scaledVariableDebt := stored }
  | stable {moved debt : Int} {loan : StableLoan} (hdebt : pos.stableDebt now = .ok debt)
      (hprincipal : loan.principal = debt + moved) (hleft : loan.debt now = .ok loan.principal)
      (hempty : loan.principal = 0 → loan.rate = 0) :
      Moves now r pos .stable moved (pos.withLoan loan)

end Position

/-- Nothing is left of a holding: a supply is no collateral any more, a stable debt has no rate. -/
def Position.Lacks (pos : Position) : Holding → Prop
  | .supply => pos.scaledBalance = 0 ∧ pos.usedAsCollateral = false
  | .floating => pos.scaledVariableDebt = 0
  | .stable => pos.principalStableDebt = 0 ∧ pos.stableRate = 0

/-- A displayed holding has changed by what was moved, up to what is rounded at the index that it
bears interest by. -/
def Holding.Follows (held : Holding) (r : Reserve) (change moved : Int) : Prop :=
  match held with
  | .supply => Close r.liquidityIndex 1 change moved
  | .floating => Close r.variableBorrowIndex 1 change moved
  | .stable => change = moved

/-! ## One position -/

namespace Position.Moves

open MoneyMarket.Ledger

variable {now moved x : Int} {r s : Reserve} {pos pos' : Position} {held other : Holding}

theorem kept (h : pos.Moves now s held moved pos') (hother : other ≠ held) :
    pos'.shown r now other = pos.shown r now other := by
  cases h <;> cases other <;> first | rfl | exact absurd rfl hother

theorem nonneg (h : pos.Moves now s held moved pos') (hsupply : 0 ≤ pos.scaledBalance)
    (hdebt : 0 ≤ pos.scaledVariableDebt) : 0 ≤ pos'.scaledBalance ∧ 0 ≤ pos'.scaledVariableDebt := by
  cases h with
  | supply h => exact ⟨h.nonneg hsupply, hdebt⟩
  | floating h => exact ⟨hsupply, h.nonneg hdebt⟩
  | stable => exact ⟨hsupply, hdebt⟩

variable (htime : s.lastUpdateTimestamp = now) (hrunning : Running now s)
  (hsupply : 0 ≤ pos.scaledBalance) (hdebt : 0 ≤ pos.scaledVariableDebt)
include htime hrunning hsupply hdebt

theorem follows (h : pos.Moves now s held moved pos') (hincome : ray ≤ s.liquidityIndex)
    (hindex : ray ≤ s.variableBorrowIndex) : ∃ x y, pos.shown s now held = .ok x ∧
      pos'.shown s now held = .ok y ∧ held.Follows s (y - x) moved := by
  obtain ⟨hsupply', hdebt'⟩ := h.nonneg hsupply hdebt
  cases h with
  | supply h =>
    exact ⟨_, _, supplyBalance_shown htime hrunning hsupply,
      supplyBalance_shown htime hrunning hsupply', (h.tracks hincome).shown⟩
  | floating h =>
    exact ⟨_, _, variableDebt_shown htime hrunning hdebt,
      variableDebt_shown htime hrunning hdebt', (h.tracks hindex).shown⟩
  | stable hbefore hprincipal hleft =>
    refine ⟨_, _, hbefore, hleft, ?_⟩
    show _ - _ = moved
    omega

theorem emptied (h : pos.Moves now s held moved pos') (hx : pos.shown s now held = .ok x)
    (hsome : 0 < x) (hall : moved = -x) : pos'.Lacks held := by
  cases h with
  | supply h hempty =>
    obtain rfl := Except.ok.inj ((supplyBalance_shown htime hrunning hsupply).symm.trans hx)
    have hnone := h.emptied hsome hall
    exact ⟨hnone, hempty (by omega) hnone⟩
  | floating h =>
    obtain rfl := Except.ok.inj ((variableDebt_shown htime hrunning hdebt).symm.trans hx)
    exact h.emptied hsome hall
  | @stable _ debt loan hbefore hprincipal hleft hempty =>
    obtain rfl := Except.ok.inj (hbefore.symm.trans hx)
    have hnone : loan.principal = 0 := by omega
    exact ⟨hnone, hempty hnone⟩

end Position.Moves

theorem Reserve.Alike.shown {now : Int} {pos : Position} {r s : Reserve} (h : Alike now pos r s)
    (held : Holding) : pos.shown s now held = pos.shown r now held := by
  cases held with
  | supply => exact h.supply
  | floating => exact h.debt
  | stable => rfl

namespace Ledger

variable {now amount moved : Int} {user asset : Name} {l m : Ledger} {r s : Reserve}
  {pos : Position} {held : Holding} {mode : RateMode}

/-! ## What is booked -/

theorem bookDeposit_visit {first : Bool} (hl : Timely now l)
    (h : bookDeposit asset amount user now l = .ok first m) :
    first = decide ((l.position user asset).scaledBalance = 0) ∧
      ∃ r s x, Visit now user asset l r m s { l.position user asset with
          scaledBalance := (l.position user asset).scaledBalance + x
          usedAsCollateral := first || (l.position user asset).usedAsCollateral } ∧
        rayDiv amount s.liquidityIndex = .ok x := by
  obtain ⟨l₁, l₂, l₃, hfirst, haccrue, hmoney, hmint, hagain⟩ := bookDeposit_ok h
  obtain ⟨r, s₁, hvisit, _⟩ := visit_of_accrue hl haccrue
  rw [hvisit.position] at hfirst
  obtain ⟨rp, hminted, hmoved⟩ := (hvisit.money hmoney).stage hmint fun _ => mintSupply_moved
  simp only [Reserve.mintSupply, bind_ok_iff, pure_ok_iff] at hminted
  obtain ⟨x, hx, rfl⟩ := hminted
  have hswitched := hmoved.switchIf first true
  obtain ⟨s, hended, hupdated⟩ := hswitched.accrue hagain
  refine ⟨hfirst, r, s, x, by simpa using hended, ?_⟩
  rw [hupdated.liquidityIndex_eq hswitched.time]
  exact hx

/-- Between two accruals, stages on the position see the indices that are there at the end. -/
theorem visit_of_stages {b : Booking} {change : Int} {stages : List (Stage WithPosition)}
    (hl : Timely now l) (h : Booked asset now (LedgerWork.book asset b) change l m)
    (hb : ∀ l : Ledger, l.book asset b = l.bookPosition user asset stages)
    (hmoved : ∀ r p rp, Stage.perform stages (r, p) = .ok rp → Moved True r p rp) :
    ∃ r s₁ s rp, Visit now user asset l r m s rp.2 ∧
      Stage.perform stages (s₁, l.position user asset) = .ok rp ∧
      s₁.liquidityIndex = s.liquidityIndex ∧ s₁.variableBorrowIndex = s.variableBorrowIndex := by
  obtain ⟨l₁, l₂, l₃, haccrue, hstages, hmoney, hagain⟩ := h
  rw [book_eq_ok, hb] at hstages
  obtain ⟨r, s₁, hvisit, _⟩ := visit_of_accrue hl haccrue
  obtain ⟨rp, hdone, hchanged⟩ := hvisit.bookPosition hstages fun _ => hmoved _ _ _
  obtain ⟨s, hended, hupdated⟩ := (hchanged.money hmoney).accrue hagain
  have hm := hmoved _ _ _ hdone
  refine ⟨r, s₁, s, rp, hended, hdone, ?_, ?_⟩
  · rw [hupdated.liquidityIndex_eq hchanged.time]
    cases hm <;> rfl
  · rw [hupdated.stands hchanged.time]
    cases hm <;> rfl

theorem visit_of_booked {b : Booking} {change : Int} {stage : Stage WithPosition} (hl : Timely now l)
    (h : Booked asset now (LedgerWork.book asset b) change l m)
    (hb : ∀ l : Ledger, l.book asset b = l.bookPosition user asset [stage])
    (hmoved : ∀ r p rp, stage (r, p) = .ok rp → Moved True r p rp) :
    ∃ r s₁ s rp, Visit now user asset l r m s rp.2 ∧ stage (s₁, l.position user asset) = .ok rp ∧
      s₁.liquidityIndex = s.liquidityIndex ∧ s₁.variableBorrowIndex = s.variableBorrowIndex := by
  obtain ⟨r, s₁, s, rp, hvisit, hdone, hindices⟩ := visit_of_stages hl h hb fun r p rp hrp =>
    hmoved r p rp (Stage.perform_single_ok.1 hrp)
  exact ⟨r, s₁, s, rp, hvisit, Stage.perform_single_ok.1 hdone, hindices⟩

theorem bookWithdrawal_visit {u : Unit} (hl : Timely now l)
    (h : bookWithdrawal asset amount user now l = .ok u m) : ∃ r s x,
      Visit now user asset l r m s { l.position user asset with
        scaledBalance := (l.position user asset).scaledBalance - x } ∧
      scaledShare (l.position user asset).scaledBalance s.liquidityIndex amount = .ok x := by
  obtain ⟨r, s₁, s, rp, hvisit, hburned, hindex, _⟩ :=
    visit_of_booked hl (bookWithdrawal_booked h) (fun _ => rfl) fun _ _ _ => burnSupply_moved
  simp only [Reserve.burnSupply, bind_ok_iff, pure_ok_iff] at hburned
  obtain ⟨x, hx, rfl⟩ := hburned
  exact ⟨r, s, x, hvisit, hindex ▸ hx⟩

theorem bookLoan_visit {rate : Int} (hl : Timely now l)
    (h : bookLoan asset amount .floating user now l = .ok rate m) : ∃ r s x,
      Visit now user asset l r m s { l.position user asset with
        scaledVariableDebt := (l.position user asset).scaledVariableDebt + x } ∧
      rayDiv amount s.variableBorrowIndex = .ok x := by
  obtain ⟨r, s₁, s, rp, hvisit, hminted, _, hindex⟩ :=
    visit_of_booked hl (bookLoan_booked h) (fun _ => rfl) fun _ _ _ => mintVariableDebt_moved
  simp only [Reserve.mintVariableDebt, bind_ok_iff, pure_ok_iff] at hminted
  obtain ⟨x, hx, rfl⟩ := hminted
  exact ⟨r, s, x, hvisit, hindex ▸ hx⟩

theorem bookRepayment_visit {u : Unit} (hl : Timely now l)
    (h : bookRepayment asset amount .floating user now l = .ok u m) : ∃ r s x,
      Visit now user asset l r m s { l.position user asset with
        scaledVariableDebt := (l.position user asset).scaledVariableDebt - x } ∧
      scaledShare (l.position user asset).scaledVariableDebt s.variableBorrowIndex amount = .ok x := by
  obtain ⟨r, s₁, s, rp, hvisit, hburned, _, hindex⟩ :=
    visit_of_booked hl (bookRepayment_booked h) (fun _ => rfl) fun _ _ _ => burnVariableDebt_moved
  simp only [Reserve.burnVariableDebt, bind_ok_iff, pure_ok_iff] at hburned
  obtain ⟨x, hx, rfl⟩ := hburned
  exact ⟨r, s, x, hvisit, hindex ▸ hx⟩

theorem visit_of_opened (h : Visit now user asset (l.openPosition user asset) r m s pos) :
    Visit now user asset l r m s pos := by
  refine { h with kept := ?_, others := ?_ }
  · intro _
    apply h.kept
    simp [Ledger.openPosition]
  · intro q
    rw [h.others]
    exact setPosition_setPosition l user asset (l.position user asset) q

/-! ## What has moved -/

/-- From `l` to `m` an account has moved an amount in one reserve, and has done nothing else. -/
def Movement (held : Holding) (now : Int) (user asset : Name) (moved : Int) (l : Ledger)
    (r : Reserve) (m : Ledger) (s : Reserve) (pos : Position) : Prop :=
  Visit now user asset l r m s pos ∧ (l.position user asset).Moves now s held moved pos

theorem bookDeposit_movement {first : Bool} (hl : Timely now l)
    (h : bookDeposit asset amount user now l = .ok first m) :
    ∃ r s pos, Movement .supply now user asset amount l r m s pos := by
  obtain ⟨_, r, s, x, hvisit, hx⟩ := bookDeposit_visit hl h
  have hnonneg := (rayDiv_ok_iff.1 hx).1
  exact ⟨r, s, _, hvisit, .supply (.put hx) fun hless => by omega⟩

theorem bookLoan_movement {rate : Int} (hl : Timely now l)
    (h : bookLoan asset amount mode user now l = .ok rate m) :
    ∃ r s pos, Movement mode.holding now user asset amount l r m s pos := by
  cases mode with
  | floating =>
    obtain ⟨r, s, x, hvisit, hx⟩ := bookLoan_visit hl h
    exact ⟨r, s, _, hvisit, .floating (.put hx)⟩
  | stable =>
    obtain ⟨r, _, s, rp, hvisit, hminted, _⟩ :=
      visit_of_stages hl (bookLoan_booked h) (fun _ => rfl) fun _ _ _ => mintStableDebt_moved trivial
    obtain ⟨current, x, y, hcurrent, rfl, hprincipal, hy, hpos⟩ := mintStableDebt_left hminted
    exact ⟨r, s, _, hvisit, .stable hcurrent hprincipal hy fun hnone => by omega⟩

theorem bookRepayment_movement {debt : Int} {u : Unit} (hl : Timely now l)
    (hr : l.reserve? asset = some r)
    (hdebt : debtOfMode r (l.position user asset) mode now = .ok debt) (hle : amount ≤ debt)
    (h : bookRepayment asset amount mode user now l = .ok u m) :
    ∃ s pos, Movement mode.holding now user asset (-amount) l r m s pos := by
  cases mode with
  | floating =>
    obtain ⟨r', s, x, hvisit, hx⟩ := bookRepayment_visit hl h
    obtain rfl : r' = r := by simpa [hvisit.before] using hr
    rw [hvisit.variableDebt_before hl hdebt] at hle
    exact ⟨s, _, hvisit, .floating (.take hle hx)⟩
  | stable =>
    obtain ⟨r', _, s, rp, hvisit, hburned, _⟩ :=
      visit_of_booked hl (bookRepayment_booked h) (fun _ => rfl) fun _ _ _ => burnStableDebt_moved trivial
    obtain rfl : r' = r := by simpa [hvisit.before] using hr
    obtain ⟨current, x, y, hcurrent, rfl, hprincipal, hy, hrate⟩ := burnStableDebt_left hburned
    obtain rfl : current = debt := Except.ok.inj (hcurrent.symm.trans hdebt)
    rw [Int.min_eq_left hle, Int.sub_eq_add_neg] at hprincipal
    exact ⟨s, _, hvisit, .stable hcurrent hprincipal hy hrate⟩

section Shown

variable (h : Movement held now user asset moved l r m s pos) (hl : Timely now l)
include h hl

theorem Movement.shown_before (held' : Holding) :
    (l.position user asset).shown s now held' = (l.position user asset).shown r now held' :=
  (h.1.alike (hl.counted_position h.1.before)).shown held'

/-- What is displayed of the holding follows the amount, and what is displayed of the others stays. -/
theorem Movement.shown (hreadable : (l.position user asset).loan.Readable now)
    (hincome : ray ≤ s.liquidityIndex) (hindex : ray ≤ s.variableBorrowIndex) (held' : Holding) :
    ∃ x y, (l.position user asset).shown r now held' = .ok x ∧ pos.shown s now held' = .ok y ∧
      (held' = held → held.Follows s (y - x) moved) ∧ (held' ≠ held → y = x) := by
  obtain ⟨hvisit, hmoves⟩ := h
  have hsupply := hl.supply_nonneg user asset
  have hdebt := hl.debt_nonneg user asset
  rw [← Movement.shown_before ⟨hvisit, hmoves⟩ hl]
  by_cases heq : held' = held
  · subst heq
    obtain ⟨x, y, hx, hy, hfollows⟩ :=
      hmoves.follows hvisit.time hvisit.running hsupply hdebt hincome hindex
    exact ⟨x, y, hx, hy, fun _ => hfollows, fun hne => absurd rfl hne⟩
  · have hshown : ∃ x, (l.position user asset).shown s now held' = .ok x := by
      cases held' with
      | supply => exact ⟨_, supplyBalance_shown hvisit.time hvisit.running hsupply⟩
      | floating => exact ⟨_, variableDebt_shown hvisit.time hvisit.running hdebt⟩
      | stable => exact hreadable
    obtain ⟨x, hx⟩ := hshown
    exact ⟨x, x, hx, (hmoves.kept heq).trans hx, fun h => absurd h heq, fun _ => rfl⟩

theorem Movement.emptied {x : Int} (hx : (l.position user asset).shown r now held = .ok x)
    (hsome : 0 < x) (hall : moved = -x) : pos.Lacks held := by
  rw [← h.shown_before hl] at hx
  exact h.2.emptied h.1.time h.1.running (hl.supply_nonneg user asset) (hl.debt_nonneg user asset)
    hx hsome hall

end Shown

end Ledger

end MoneyMarket
