import MoneyMarket.Ledger.Booking
import MoneyMarket.Proofs.Reserve.Effect
import Mathlib.Logic.Relation

/-!
# Steps of a ledger

All that a booking, however far it gets, can do to a ledger is a sequence of the steps below, and
so is all that an operation does before it is committed. An invariant is therefore shown for each
step once.
-/

namespace MoneyMarket.Ledger

open MoneyMarket.FixedPoint MoneyMarket.Reserve

/-- One change of a ledger. Stable debt changes only where `loans` says so. -/
inductive Step (loans : Prop) : Ledger → Ledger → Prop
  | accrue {l : Ledger} {a : Key} {r s : Reserve} (hr : l.reserve? a = some r)
      (hs : Accrued r s) : Step loans l (l.setReserve a s)
  | money {l : Ledger} {a : Key} {r : Reserve} (hr : l.reserve? a = some r) (change : Int) :
      Step loans l
        (l.setReserve a { r with availableLiquidity := r.availableLiquidity + change })
  | average {l : Ledger} {a : Key} {r : Reserve} (h : loans) (hr : l.reserve? a = some r)
      (x : StableLoan) (hx : 0 ≤ x.principal) : Step loans l (l.setReserve a (r.withLoan x))
  | move {l : Ledger} {user asset : Name} {r : Reserve} {rp : WithPosition}
      (hr : l.reserve? asset = some r) (hm : Moved loans r (l.position user asset) rp) :
      Step loans l ((l.openPosition user asset).setWithPosition user asset rp)
  | handOver {l : Ledger} {source target asset : Name} {r : Reserve} {x : Int}
      (hr : l.reserve? asset = some r) (hx : 0 ≤ x)
      (hp : x ≤ (l.position source asset).scaledBalance) :
      Step loans l
        ((l.modifyPosition source asset fun p =>
            { p with scaledBalance := p.scaledBalance - x }).modifyPosition target asset fun p =>
          { p with scaledBalance := p.scaledBalance + x })
  | credit {l : Ledger} {a : Key} {r : Reserve} (hr : l.reserve? a = some r) (treasury : Key) :
      Step loans l ((l.modifyPosition treasury r.asset fun p =>
          { p with scaledBalance := p.scaledBalance + r.accruedToTreasury }).setReserve a
        { r with accruedToTreasury := 0 })
  | openPosition {l : Ledger} (user asset : Name) : Step loans l (l.openPosition user asset)
  | switch {l : Ledger} (user asset : Name) (enabled : Bool) :
      Step loans l (l.modifyPosition user asset fun p => { p with usedAsCollateral := enabled })
  | switchMargin {l : Ledger} (user : Key) (enabled : Bool) :
      Step loans l (l.setUsesMargin user enabled)

abbrev Steps (loans : Prop) : Ledger → Ledger → Prop := Relation.ReflTransGen (Step loans)

theorem Steps.preserves {loans : Prop} {I : Ledger → Prop}
    (h : ∀ {l m}, Step loans l m → I l → I m) {l m : Ledger} (hs : Steps loans l m) (hl : I l) :
    I m := by
  induction hs with
  | refl => exact hl
  | tail _ hstep ih => exact h hstep ih

/-! ## Bookings -/

def Booking.isStable : Booking → Bool
  | .updateStableRate _ _ _ | .mintStableDebt _ _ _ _ | .burnStableDebt _ _ _ => true
  | _ => false

variable {loans : Prop} {l : Ledger} {user asset : Name}

theorem advance_single {σ : Type} (stage : Stage σ) (s : σ) :
    (Stage.advance [stage] s).state = match stage s with
      | .ok s' => s'
      | .error _ => s := by
  unfold Stage.advance
  cases stage s <;> rfl

theorem bookReserve_steps {stages : Reserve → List (Stage Reserve)}
    (h : ∀ r, l.reserve? asset = some r →
      Steps loans l (l.setReserve asset (Stage.advance (stages r) r).state)) :
    Steps loans l (l.bookReserve asset stages).state := by
  unfold bookReserve heldReserve
  cases hr : l.reserve? asset with
  | none => exact .refl
  | some r => exact h r hr

theorem bookPosition_steps {stages : List (Stage WithPosition)}
    (h : ∀ r p, Moved loans r p (Stage.advance stages (r, p)).state) :
    Steps loans l (l.bookPosition user asset stages).state := by
  unfold bookPosition heldReserve
  cases hr : l.reserve? asset with
  | none => exact .refl
  | some r => exact .single (.move hr (h r _))

theorem advance_moved {stage : Stage WithPosition} {r : Reserve} {p : Position}
    (h : ∀ rp, stage (r, p) = .ok rp → Moved loans r p rp) :
    Moved loans r p (Stage.advance [stage] (r, p)).state := by
  rw [advance_single]
  split
  · rename_i rp hok
    exact h rp hok
  · exact .nothing

theorem bookTransfer_steps (source target : Name) (amount : Int) :
    Steps loans l (l.bookTransfer source target asset amount).state := by
  unfold bookTransfer heldReserve
  cases hr : l.reserve? asset with
  | none => exact .refl
  | some r =>
    have hopen : Steps loans l ((l.openPosition source asset).openPosition target asset) :=
      (Relation.ReflTransGen.single (.openPosition source asset)).tail (.openPosition target asset)
    dsimp only
    split
    · exact hopen
    · rename_i x hx
      have hb := scaledShare_bounds hx
      exact hopen.tail (.handOver hr hb.1 hb.2)

theorem book_steps (b : Booking) (h : b.isStable → loans) :
    Steps loans l (l.book asset b).state := by
  cases b with
  | accrue now =>
    refine bookReserve_steps fun r hr => .single (.accrue hr ?_)
    exact accrualStages_accrued r now
  | updateStableRate change rate now =>
    refine bookReserve_steps fun r hr => ?_
    rw [advance_single]
    split
    · rename_i s hs
      have hprincipal := updateStableRate_principal hs
      obtain ⟨_, x, _, _, _, rfl⟩ := updateStableRate_ok_iff.1 hs
      exact .single (.average (h rfl) hr _ hprincipal)
    · exact .single (.accrue hr (.refl r))
  | money change =>
    exact bookReserve_steps fun r hr => .single (.money hr change)
  | transferSupply source target amount => exact bookTransfer_steps source target amount
  | mintSupply user amount =>
    exact bookPosition_steps fun _ _ => advance_moved fun _ => mintSupply_moved
  | burnSupply user amount =>
    exact bookPosition_steps fun _ _ => advance_moved fun _ => burnSupply_moved
  | mintVariableDebt user amount =>
    exact bookPosition_steps fun _ _ => advance_moved fun _ => mintVariableDebt_moved
  | burnVariableDebt user amount =>
    exact bookPosition_steps fun _ _ => advance_moved fun _ => burnVariableDebt_moved
  | mintStableDebt user amount rate now =>
    exact bookPosition_steps fun _ _ => stableDebtStages_moved (h rfl) rate
  | burnStableDebt user amount now =>
    exact bookPosition_steps fun _ _ => advance_moved fun _ => burnStableDebt_moved (h rfl)

/-! ## Bookings that are done -/

variable {m : Ledger}

theorem bookReserve_done {stages : Reserve → List (Stage Reserve)}
    (h : l.bookReserve asset stages = ⟨m, none⟩) : ∃ r s, l.reserve? asset = some r ∧
      Stage.perform (stages r) r = .ok s ∧ m = l.setReserve asset s := by
  unfold bookReserve heldReserve at h
  cases hr : l.reserve? asset with
  | none =>
    rw [hr] at h
    cases h
  | some r =>
    rw [hr] at h
    dsimp only at h
    have hdone := Stage.toExcept_advance (stages r) r
    cases ha : Stage.advance (stages r) r with
    | mk s fault =>
      rw [ha] at h hdone
      cases h
      exact ⟨r, s, rfl, hdone.symm, rfl⟩

theorem bookPosition_done {stages : List (Stage WithPosition)}
    (h : l.bookPosition user asset stages = ⟨m, none⟩) : ∃ r rp,
      l.reserve? asset = some r ∧ Stage.perform stages (r, l.position user asset) = .ok rp ∧
      m = (l.openPosition user asset).setWithPosition user asset rp := by
  unfold bookPosition heldReserve at h
  cases hr : l.reserve? asset with
  | none =>
    rw [hr] at h
    cases h
  | some r =>
    rw [hr] at h
    dsimp only at h
    have hdone := Stage.toExcept_advance stages (r, l.position user asset)
    cases ha : Stage.advance stages (r, l.position user asset) with
    | mk rp fault =>
      rw [ha] at h hdone
      cases h
      exact ⟨r, rp, rfl, hdone.symm, rfl⟩

theorem bookStage_done {stage : Stage WithPosition}
    (h : l.bookPosition user asset [stage] = ⟨m, none⟩) : ∃ r rp,
      l.reserve? asset = some r ∧ stage (r, l.position user asset) = .ok rp ∧
      m = (l.openPosition user asset).setWithPosition user asset rp := by
  obtain ⟨r, _, hr, hdone, rfl⟩ := bookPosition_done h
  obtain ⟨_, hrp, hdone⟩ := Stage.perform_cons_ok.1 hdone
  cases hdone
  exact ⟨r, _, hr, hrp, rfl⟩

theorem bookTransfer_done {source target : Name} {amount : Int}
    (h : l.bookTransfer source target asset amount = ⟨m, none⟩) : ∃ r x,
      l.reserve? asset = some r ∧ r.transferShare
        (((l.openPosition source asset).openPosition target asset).position source asset) amount =
          .ok x ∧
      m = (((l.openPosition source asset).openPosition target asset).modifyPosition source asset
          fun p => { p with scaledBalance := p.scaledBalance - x }).modifyPosition target asset
        fun p => { p with scaledBalance := p.scaledBalance + x } := by
  unfold bookTransfer heldReserve at h
  cases hr : l.reserve? asset with
  | none =>
    rw [hr] at h
    cases h
  | some r =>
    rw [hr] at h
    dsimp only at h
    split at h
    · cases h
    · rename_i x hx
      cases h
      exact ⟨r, x, rfl, hx, rfl⟩

end MoneyMarket.Ledger
