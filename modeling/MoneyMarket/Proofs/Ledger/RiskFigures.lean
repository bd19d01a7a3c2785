import MoneyMarket.Liquidation.Margin
import MoneyMarket.Liquidation.Standard
import MoneyMarket.Proofs.Progress
import Mathlib.Data.List.Forall2

/-!
# Risk figures in reports

Of what a margin venue reports, the maintenance margin and the value at risk are only passed on. Two
feeds that differ in nothing else value every account alike, plan the same liquidations, and store or
ignore the same reports.
-/

namespace MoneyMarket

/-! ## Snapshots and reports -/

def MarginSnapshot.bare (s : MarginSnapshot) : MarginSnapshot :=
  { s with maintenanceMargin := 0, valueAtRisk := 0 }

/-- A figure that is accepted where none may be negative. -/
def Reported.IsAmount (r : Reported) : Prop := ∃ n : Int, r = .whole n ∧ 0 ≤ n

/-- Two reports of which only the risk figures differ, and these are accepted in both. -/
structure MarginReport.Alike (r t : MarginReport) : Prop where
  markToMarket : t.markToMarket = r.markToMarket
  collateral : t.collateral = r.collateral
  maintenanceMargin : r.maintenanceMargin.IsAmount ∧ t.maintenanceMargin.IsAmount
  valueAtRisk : r.valueAtRisk.IsAmount ∧ t.valueAtRisk.IsAmount

theorem MarginReport.Alike.checked {r t : MarginReport} (h : r.Alike t) (account : Name)
    (sequence : Int) : (t.checked account sequence).map MarginSnapshot.bare =
      (r.checked account sequence).map MarginSnapshot.bare := by
  obtain ⟨_, mark, collateral, _⟩ := r
  obtain ⟨_, _, _, _⟩ := t
  obtain ⟨rfl, rfl, ⟨⟨m, rfl, hm⟩, m', rfl, hm'⟩, ⟨v, rfl, hv⟩, v', rfl, hv'⟩ := h
  have hwhole (name : String) (n : Int) : wholeField account name (.whole n) = .ok n := rfl
  have haccepted (name : String) {n : Int} (hn : 0 ≤ n) :
      requireNonNegative account name n = .ok () := if_neg (Int.not_lt.2 hn)
  simp only [MarginReport.checked, hwhole, haccepted _ hm, haccepted _ hm', haccepted _ hv,
    haccepted _ hv', ok_bind, map_bind]
  rfl

/-! ## Feeds -/

namespace MarginFeed

def Alike (f g : MarginFeed) : Prop :=
  ∀ account, (g.snapshots.get? account).map MarginSnapshot.bare =
    (f.snapshots.get? account).map MarginSnapshot.bare

variable {f g : MarginFeed}

theorem Alike.refl (f : MarginFeed) : f.Alike f := fun _ => rfl

theorem Alike.snapshot (h : f.Alike g) (account : Key) :
    (g.snapshot account).bare = (f.snapshot account).bare := by
  have haccount := h account
  unfold MarginFeed.snapshot
  cases hf : f.snapshots.get? account <;> cases hg : g.snapshots.get? account <;>
    simp_all

theorem Alike.collateralValue (h : f.Alike g) (account : Key) :
    (g.snapshot account).collateralValue = (f.snapshot account).collateralValue := by
  have hvalue := congrArg MarginSnapshot.collateralValue (h.snapshot account)
  exact hvalue

theorem Alike.isStale (h : f.Alike g) (account : Key) (sequence : Int) :
    g.isStale account sequence = f.isStale account sequence := by
  have hbare (f : MarginFeed) : f.isStale account sequence =
      ((f.snapshots.get? account).map MarginSnapshot.bare).any (sequence < ·.sequence) := by
    unfold MarginFeed.isStale
    cases f.snapshots.get? account <;> rfl
  rw [hbare, hbare, h account]

theorem Alike.set (h : f.Alike g) (account : Key) {s t : MarginSnapshot} (hst : t.bare = s.bare) :
    Alike ⟨f.snapshots.set account s⟩ ⟨g.snapshots.set account t⟩ := by
  intro a
  rw [Table.get?_set, Table.get?_set]
  split
  · exact congrArg some hst
  · exact h a

/-- Both feeds refuse the report, or both take it and are alike again. -/
theorem Alike.push (h : f.Alike g) {r t : MarginReport} {account : Name} {sequence : Int}
    (hrt : (t.checked account sequence).map MarginSnapshot.bare =
      (r.checked account sequence).map MarginSnapshot.bare) :
    (∃ e, f.push account r sequence = .error e ∧ g.push account t sequence = .error e) ∨
      ∃ f' g' stored, f.push account r sequence = .ok (f', stored) ∧
        g.push account t sequence = .ok (g', stored) ∧ f'.Alike g' := by
  unfold MarginFeed.push
  rw [h.isStale]
  cases hr : r.checked account sequence with
  | error e =>
    rw [hr] at hrt
    cases ht : t.checked account sequence with
    | error e' =>
      rw [ht] at hrt
      cases hrt
      exact .inl ⟨e, rfl, rfl⟩
    | ok _ =>
      rw [ht] at hrt
      cases hrt
  | ok s =>
    rw [hr] at hrt
    obtain ⟨s', ht, hbare⟩ := map_ok_iff.1 hrt
    rw [ht, ok_bind, ok_bind]
    right
    split
    · exact ⟨f, g, false, rfl, rfl, h⟩
    · exact ⟨_, _, true, rfl, rfl, h.set account hbare⟩

theorem Alike.pushAll (h : f.Alike g) {updates updates' : List (Name × MarginReport)}
    (hu : List.Forall₂ (fun x y => y.1 = x.1 ∧ x.2.Alike y.2) updates updates') (sequence : Int) :
    (g.pushAll updates' sequence).fault = (f.pushAll updates sequence).fault ∧
      (g.pushAll updates' sequence).state.2 = (f.pushAll updates sequence).state.2 ∧
      (f.pushAll updates sequence).state.1.Alike (g.pushAll updates' sequence).state.1 := by
  unfold MarginFeed.pushAll
  generalize 0 = stored
  induction hu generalizing f g stored with
  | nil => exact ⟨rfl, rfl, h⟩
  | @cons x y _ _ hxy _ ih =>
    obtain ⟨hname, hreport⟩ := hxy
    simp only [List.map_cons, Stage.advance, pushCounted, hname]
    rcases h.push (hreport.checked x.1 sequence) with ⟨e, hf, hg⟩ | ⟨f', g', b, hf, hg, h'⟩
    · rw [hf, hg]
      exact ⟨rfl, rfl, h⟩
    · rw [hf, hg]
      exact ih h' _

end MarginFeed

/-! ## Solvency reports -/

def SolvencyReport.bare (r : SolvencyReport) : SolvencyReport :=
  { r with marginSnapshot := r.marginSnapshot.map MarginSnapshot.bare }

theorem SolvencyReport.of_bare (cs : List Contribution) (debt : Quantity)
    {margin margin' : Option MarginSnapshot}
    (h : margin'.map MarginSnapshot.bare = margin.map MarginSnapshot.bare) :
    (SolvencyReport.of cs debt margin').map bare = (SolvencyReport.of cs debt margin).map bare := by
  have hof (m : Option MarginSnapshot) : (SolvencyReport.of cs debt m).map bare =
      (SolvencyReport.of cs debt none).map
        ({ · with marginSnapshot := m.map MarginSnapshot.bare }) := by
    simp only [SolvencyReport.of, map_bind]
    rfl
  rw [hof, hof, h]

theorem SolvencyReport.eq_of_bare {r t : SolvencyReport} (h : t.bare = r.bare) :
    t = { r with marginSnapshot := t.marginSnapshot } := by
  obtain ⟨⟩ := r
  obtain ⟨⟩ := t
  simp only [bare, mk.injEq] at h
  obtain ⟨rfl, rfl, rfl, rfl, rfl, rfl, rfl, -⟩ := h
  rfl

namespace Ledger

variable {l : Ledger} {s : Surroundings} {g : MarginFeed} {user : Key} {now : Int}

section Alike

variable (h : s.feed.Alike g)
include h

theorem marginContribution_alike :
    l.marginContribution { s with feed := g } user = l.marginContribution s user := by
  unfold marginContribution
  rw [h.collateralValue]
  rfl

theorem marginCollateralValue_alike :
    l.marginCollateralValue { s with feed := g } user = l.marginCollateralValue s user := by
  unfold marginCollateralValue
  rw [h.collateralValue]
  rfl

theorem solvencyUsing_alike (l : Ledger) (user : Key) (now : Int) (usingMargin : Bool) :
    (l.solvencyUsing { s with feed := g } user now usingMargin).map SolvencyReport.bare =
      (l.solvencyUsing s user now usingMargin).map SolvencyReport.bare := by
  have hsnapshot : (some (g.snapshot user)).map MarginSnapshot.bare =
      (some (s.feed.snapshot user)).map MarginSnapshot.bare := congrArg some (h.snapshot user)
  unfold solvencyUsing
  rw [marginContribution_alike h]
  cases usingMargin with
  | false => rfl
  | true =>
    simp only [if_true, map_bind, SolvencyReport.of_bare _ _ hsnapshot]
    rfl

/-- What makes nothing of the snapshot in a report goes on alike. -/
theorem solvencyUsing_bind {α : Type} {usingMargin : Bool} {k : SolvencyReport → Except Fault α}
    (hk : ∀ r margin, k { r with marginSnapshot := margin } = k r) :
    l.solvencyUsing { s with feed := g } user now usingMargin >>= k =
      l.solvencyUsing s user now usingMargin >>= k := by
  have hbare := solvencyUsing_alike h l user now usingMargin
  cases hs : l.solvencyUsing s user now usingMargin with
  | error f =>
    cases hg : l.solvencyUsing { s with feed := g } user now usingMargin with
    | error f' =>
      rw [hs, hg] at hbare
      cases hbare
      rfl
    | ok _ =>
      rw [hs, hg] at hbare
      cases hbare
  | ok r =>
    rw [hs] at hbare
    obtain ⟨t, ht, hbare⟩ := map_ok_iff.1 hbare
    rw [ht, ok_bind, ok_bind, SolvencyReport.eq_of_bare hbare, hk]

/-! ## Liquidations -/

theorem planLiquidation_alike (params : LiquidationParams) (borrower debtAsset : Name)
    (debtToCover : Int) (collateralUsable : Bool) :
    l.planLiquidation { s with feed := g } params borrower debtAsset debtToCover now
        collateralUsable =
      l.planLiquidation s params borrower debtAsset debtToCover now collateralUsable := by
  unfold planLiquidation solvency
  dsimp only
  by_cases hnone : debtToCover ≤ 0
  · rw [if_pos hnone, if_pos hnone]
    rfl
  · rw [if_neg hnone, if_neg hnone]
    exact solvencyUsing_bind h fun _ _ => rfl

theorem availableMarginCollateral_alike (asset : Name) :
    l.availableMarginCollateral { s with feed := g } user asset =
      l.availableMarginCollateral s user asset := by
  unfold availableMarginCollateral
  rw [marginCollateralValue_alike h, h.collateralValue]

theorem planStandardLiquidation_alike (params : LiquidationParams) (c : LiquidationCall) :
    l.planStandardLiquidation { s with feed := g } params c now =
      l.planStandardLiquidation s params c now := by
  simp only [planStandardLiquidation, planLiquidation_alike h]

theorem planMarginLiquidation_alike (params : LiquidationParams) (m : MarginLiquidation) :
    l.planMarginLiquidation { s with feed := g } params m now =
      l.planMarginLiquidation s params m now := by
  simp only [planMarginLiquidation, planLiquidation_alike h, availableMarginCollateral_alike h]

end Alike

end Ledger

namespace LedgerWork

variable {s : Surroundings} {g : MarginFeed} (h : s.feed.Alike g)
include h

theorem liquidate_alike (params : LiquidationParams) (c : LiquidationCall) (now : Int) :
    liquidate { s with feed := g } params c now = liquidate s params c now := by
  simp only [liquidate, Ledger.planStandardLiquidation_alike h]

theorem liquidateMargin_alike (params : LiquidationParams) (m : MarginLiquidation) (now : Int) :
    liquidateMargin { s with feed := g } params m now = liquidateMargin s params m now := by
  simp only [liquidateMargin, Ledger.planMarginLiquidation_alike h]

end LedgerWork

end MoneyMarket
