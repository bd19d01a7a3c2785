import MoneyMarket.Proofs.Interest
import MoneyMarket.Proofs.Ledger.Conservation
import MoneyMarket.Proofs.Ledger.Rollback

/-!
# Stable loans

The stable debts of a ledger are what its reserves count and what its positions owe. A loan and a
repayment change one of each. A reserve may take a repayment for the last one: then it counts
nothing any more, whatever others still owe.
-/

namespace MoneyMarket

open MoneyMarket.FixedPoint MoneyMarket.Interest MoneyMarket.Reserve

/-! ## Debts -/

def StableLoan.debt (x : StableLoan) (now : Int) : Except Fault Int := do
  if x.principal = 0 then return 0
  else rayMul x.principal (← compoundedFactor x.rate x.since now)

theorem Position.debt_loan (p : Position) (now : Int) : p.loan.debt now = p.stableDebt now := rfl

variable {x : StableLoan} {now debt : Int}

theorem StableLoan.debt_nonneg (h : x.debt now = .ok debt) : 0 ≤ debt := by
  unfold StableLoan.debt at h
  split at h
  · cases h
    exact Int.le_refl 0
  · simp only [bind_ok_iff] at h
    obtain ⟨_, _, h⟩ := h
    exact rayMul_nonneg h

theorem StableLoan.principal_pos (h : x.debt now = .ok debt) (hpos : 0 < debt) : 0 < x.principal := by
  unfold StableLoan.debt at h
  split at h
  · cases h
    omega
  · simp only [bind_ok_iff, rayMul_ok_iff] at h
    obtain ⟨_, _, hnonneg, _⟩ := h
    omega

theorem StableLoan.debt_eq_principal (h : x.debt now = .ok debt)
    (hsince : x.principal = 0 ∨ x.since = now) : debt = x.principal := by
  unfold StableLoan.debt at h
  split at h
  · rename_i hzero
    cases h
    exact hzero.symm
  · rename_i hne
    simp only [bind_ok_iff, compoundedFactor_ok_iff, rayMul_ok_iff] at h
    obtain ⟨_, ⟨_, _, rfl⟩, _, _, rfl⟩ := h
    rw [hsince.resolve_left hne, Int.sub_self, compoundAfter_zero, rayRound_by_one]

theorem StableLoan.debt_of_now (hprincipal : 0 ≤ x.principal)
    (hnow : x.principal ≠ 0 → x.since = now ∧ 0 ≤ x.rate) : x.debt now = .ok x.principal := by
  unfold StableLoan.debt
  split
  · rename_i hzero
    rw [hzero]
    rfl
  · rename_i hne
    obtain ⟨hsince, hrate⟩ := hnow hne
    have hfactor := compoundedFactor_ok_iff.2 ⟨hrate, Int.le_of_eq hsince, rfl⟩
    rw [hfactor, hsince, Int.sub_self, compoundAfter_zero, ok_bind]
    refine rayMul_ok_iff.2 ⟨hprincipal, Int.le_of_lt ray_pos, ?_⟩
    rw [rayRound_by_one]

theorem Reserve.burnStableDebt_left {r : Reserve} {p : Position} {amount : Int} {rp : WithPosition}
    (h : r.burnStableDebt p amount now = .ok rp) : ∃ current x y,
      p.stableDebt now = .ok current ∧ rp = (r.withLoan x, p.withLoan y) ∧
      y.principal = current - min amount current ∧ y.debt now = .ok y.principal ∧
      (y.principal = 0 → y.rate = 0) := by
  simp only [burnStableDebt, bind_ok_iff, pure_ok_iff] at h
  obtain ⟨current, hcurrent, s, hs, rfl⟩ := h
  obtain ⟨_, x, hrate, _, _, rfl⟩ := updateStableRate_ok_iff.1 hs
  refine ⟨current, _, ⟨_, _, _⟩, hcurrent, rfl, rfl, StableLoan.debt_of_now ?_ ?_,
    fun hnone => if_pos hnone⟩
  · have := Int.min_le_right amount current
    dsimp only
    omega
  · intro hleft
    exact ⟨if_neg hleft, le_of_le_of_eq hrate (if_neg hleft).symm⟩

theorem Reserve.mintStableDebt_left {r : Reserve} {p : Position} {amount rate : Int}
    {rp : WithPosition} (h : Stage.perform (stableDebtStages amount rate now) (r, p) = .ok rp) :
    ∃ current x y, p.stableDebt now = .ok current ∧ rp = (r.withLoan x, p.withLoan y) ∧
      y.principal = current + amount ∧ y.debt now = .ok y.principal ∧ 0 < y.principal := by
  unfold stableDebtStages at h
  obtain ⟨_, hlend, h⟩ := Stage.perform_cons_ok.1 h
  obtain ⟨_, haverage, h⟩ := Stage.perform_cons_ok.1 h
  cases h
  simp only [lendStable, bind_ok_iff, pure_ok_iff] at hlend
  obtain ⟨current, hcurrent, own, hown, rfl⟩ := hlend
  obtain ⟨hpos, hrate⟩ := blendedRate_ok hown
  obtain ⟨_, hs, rfl⟩ := averageInStable_ok haverage
  obtain ⟨_, _, _, _, _, rfl⟩ := updateStableRate_ok_iff.1 hs
  refine ⟨current, _, ⟨current + amount, own, now⟩, hcurrent, rfl, rfl, ?_, hpos⟩
  exact StableLoan.debt_of_now (Int.le_of_lt hpos) fun _ => ⟨rfl, hrate⟩

/-! ## Books -/

@[ext]
structure StableBook where
  lent : Key → StableLoan
  /-- By asset and user. -/
  loanOf : Key → Key → StableLoan

/-- The stable debts of a ledger; where nothing is written there are none. -/
def Ledger.stableBook (l : Ledger) : StableBook where
  lent a := ((l.reserve? a).map Reserve.loan).getD {}
  loanOf a u := ((l.position? u a).map Position.loan).getD {}

namespace StableBook

/-- The reserve takes a repayment for the last one: one of no less than it counts, or of no less
yearly interest. -/
def TakenForLast (b : StableBook) (asset user : Key) (total paid : Int) : Prop :=
  total ≤ paid ∨ mulRound ray halfRay (b.lent asset).rate (total * raysPerWad) ≤
    mulRound ray halfRay (b.loanOf asset user).rate (paid * raysPerWad)

structure SameBut (asset user : Key) (b c : StableBook) : Prop where
  lent : ∀ a, a ≠ asset → c.lent a = b.lent a
  loanOf : ∀ a u, ¬ (a = asset ∧ u = user) → c.loanOf a u = b.loanOf a u

/-- A loan of `amount`, when `total` was counted and `current` owed. -/
structure Borrowed (now : Int) (asset user : Key) (amount : Int) (b c : StableBook) : Prop where
  others : SameBut asset user b c
  amount_pos : 0 < amount
  counted : ∃ total, (b.lent asset).debt now = .ok total ∧
    (c.lent asset).principal = total + amount ∧ (c.lent asset).since = now
  owed : ∃ current, (b.loanOf asset user).debt now = .ok current ∧
    (c.loanOf asset user).principal = current + amount ∧ (c.loanOf asset user).since = now

structure Repaid (now : Int) (asset user : Key) (paid : Int) (b c : StableBook) : Prop where
  others : SameBut asset user b c
  counted : ∃ total, (b.lent asset).debt now = .ok total ∧ (c.lent asset).since = now ∧
    (b.TakenForLast asset user total paid → (c.lent asset).principal = 0) ∧
    (¬ b.TakenForLast asset user total paid →
      (c.lent asset).principal = total - paid ∧ paid < total)
  owed : ∃ current, (b.loanOf asset user).debt now = .ok current ∧ paid ≤ current ∧
    (c.loanOf asset user).principal = current - paid ∧
    ((c.loanOf asset user).principal = 0 ∨ (c.loanOf asset user).since = now)

end StableBook

namespace Ledger

variable {l m : Ledger} {loans : Prop}

/-! ## Steps without loans -/

theorem lent_eq {a : Key} {r : Reserve} (h : l.reserve? a = some r) :
    l.stableBook.lent a = r.loan := by
  show ((l.reserve? a).map Reserve.loan).getD {} = r.loan
  rw [h]
  rfl

theorem loanOf_eq {u a : Key} {p : Position} (h : l.position? u a = some p) :
    l.stableBook.loanOf a u = p.loan := by
  show ((l.position? u a).map Position.loan).getD {} = p.loan
  rw [h]
  rfl

theorem loan_position (user : Key) (asset : Name) :
    (l.position user asset).loan = l.stableBook.loanOf asset user := by
  show _ = ((l.position? user asset).map Position.loan).getD {}
  unfold position
  cases l.position? user asset <;> rfl

theorem loanOf_setPosition (u a b v : Key) (p : Position) :
    (l.setPosition u a p).stableBook.loanOf b v =
      if v = u ∧ b = a then p.loan else l.stableBook.loanOf b v := by
  show (((l.setPosition u a p).position? v b).map Position.loan).getD {} = _
  rw [position?_setPosition]
  split <;> rfl

theorem lent_setReserve (a b : Key) (r : Reserve) :
    (l.setReserve a r).stableBook.lent b = if b = a then r.loan else l.stableBook.lent b := by
  show (((l.setReserve a r).reserve? b).map Reserve.loan).getD {} = _
  rw [reserve?_setReserve]
  split <;> rfl

theorem stableBook_setReserve {a : Key} {r s : Reserve} (hr : l.reserve? a = some r)
    (hs : s.loan = r.loan) : (l.setReserve a s).stableBook = l.stableBook := by
  refine StableBook.ext (funext fun b => ?_) rfl
  show (((l.setReserve a s).reserve? b).map Reserve.loan).getD {} = _
  rw [map_reserve?_setReserve hr hs]
  rfl

theorem stableBook_modifyPosition {user : Key} {asset : Name} {f : Position → Position}
    (hf : (f (l.position user asset)).loan = (l.position user asset).loan) :
    (l.modifyPosition user asset f).stableBook = l.stableBook := by
  refine StableBook.ext rfl (funext fun b => funext fun v => ?_)
  rw [modifyPosition, loanOf_setPosition, hf, loan_position]
  split
  · rename_i h
    rw [h.1, h.2]
  · rfl

theorem stableBook_openPosition (user : Key) (asset : Name) :
    (l.openPosition user asset).stableBook = l.stableBook :=
  stableBook_modifyPosition (f := id) rfl

theorem stableBook_setWithPosition (user asset : Name) (rp : WithPosition) :
    ((l.openPosition user asset).setWithPosition user asset rp).stableBook =
      { lent := fun a => if a = asset then rp.1.loan else l.stableBook.lent a
        loanOf := fun a u =>
          if u = user ∧ a = asset then rp.2.loan else l.stableBook.loanOf a u } := by
  refine StableBook.ext (funext fun b => ?_) (funext fun b => funext fun v => ?_)
  · exact lent_setReserve _ _ _
  · rw [setWithPosition, loanOf_setPosition]
    show (if _ then _ else (l.openPosition user asset).stableBook.loanOf b v) = _
    rw [stableBook_openPosition]

theorem Step.stableBook (h : Step False l m) : m.stableBook = l.stableBook := by
  cases h with
  | accrue hr hs => exact stableBook_setReserve hr hs.loan
  | money hr => exact stableBook_setReserve hr rfl
  | average h => exact h.elim
  | @move user asset r rp hr hm =>
    have hr' : r.loan = l.stableBook.lent asset := (lent_eq hr).symm
    have hloans : rp.1.loan = r.loan ∧ rp.2.loan = (l.position user asset).loan := by
      cases hm with
      | lent h => exact h.elim
      | averaged h => exact h.elim
      | _ => exact ⟨rfl, rfl⟩
    rw [stableBook_setWithPosition, hloans.1, hloans.2, loan_position, hr']
    refine StableBook.ext (funext fun b => ?_) (funext fun b => funext fun v => ?_)
    · exact ite_eq_right_iff.2 fun h => by rw [h]
    · exact ite_eq_right_iff.2 fun h => by rw [h.1, h.2]
  | handOver =>
    rw [stableBook_modifyPosition rfl, stableBook_modifyPosition rfl]
  | credit hr treasury =>
    refine Eq.trans (stableBook_setReserve (l := l.modifyPosition treasury _ _) hr rfl) ?_
    exact stableBook_modifyPosition rfl
  | openPosition => exact stableBook_openPosition _ _
  | switch => exact stableBook_modifyPosition rfl
  | switchMargin => rfl

theorem Steps.stableBook (h : Steps False l m) : m.stableBook = l.stableBook :=
  h.preserves (I := fun m => m.stableBook = l.stableBook)
    (fun hstep hm => hstep.stableBook.trans hm) rfl

/-! ## Loans and repayments -/

variable {user asset : Name} {amount rate : Int}

theorem amount_principal (asset user : Key) :
    l.amount Position.principalStableDebt asset user =
      (l.stableBook.loanOf asset user).principal := by
  show _ = (((l.position? user asset).map Position.loan).getD {}).principal
  unfold amount
  cases l.position? user asset <;> rfl

theorem total_extends {held : Position → Int} (h : Extends l m) (asset : Key) :
    (m.positions.keys.map (l.amount held asset)).sum = l.total held asset := by
  obtain ⟨more, hmore⟩ := h.users
  have hnodup : m.positions.keys.Nodup := m.positions.nodup
  rw [← hmore] at hnodup
  have hnone : ∀ x ∈ more.map (l.amount held asset), x = 0 := by
    intro x hx
    obtain ⟨u, hu, rfl⟩ := List.mem_map.1 hx
    have hnew : u ∉ l.positions.keys := fun hold =>
      List.disjoint_of_nodup_append hnodup hold hu
    rw [amount, position?_eq_none hnew]
    rfl
  rw [← hmore, List.map_append, List.sum_append, List.sum_eq_zero hnone, Int.add_zero]
  rfl

/-- The principals of a reserve change by as much as the one that changes. -/
theorem total_principal {a u : Key} (hext : Extends l m)
    (h : StableBook.SameBut a u l.stableBook m.stableBook) (b : Key) :
    m.total Position.principalStableDebt b = l.total Position.principalStableDebt b +
      if b = a then (m.stableBook.loanOf a u).principal - (l.stableBook.loanOf a u).principal
      else 0 := by
  have hother : ∀ v, v ≠ u → m.amount Position.principalStableDebt b v =
      l.amount Position.principalStableDebt b v := by
    intro v hv
    rw [amount_principal, amount_principal, h.loanOf b v fun hbv => hv hbv.2]
  have hnodup : m.positions.keys.Nodup := m.positions.nodup
  have hchange : m.amount Position.principalStableDebt b u -
      l.amount Position.principalStableDebt b u =
      if b = a then (m.stableBook.loanOf a u).principal - (l.stableBook.loanOf a u).principal
      else 0 := by
    rw [amount_principal, amount_principal]
    split
    · rename_i hb
      rw [hb]
    · rename_i hb
      rw [h.loanOf b u fun hbu => hb hbu.1, Int.sub_self]
  rw [total, sum_map_update hother hnodup, total_extends hext, hchange]
  by_cases hu : u ∈ m.positions.keys
  · rw [if_pos hu]
  · have hgone : m.amount Position.principalStableDebt b u = 0 := by
      rw [amount, position?_eq_none hu]
      rfl
    have hnever : l.amount Position.principalStableDebt b u = 0 := by
      rw [amount, position?_eq_none fun hl => hu (hext.users.subset hl)]
      rfl
    rw [if_neg hu, ← hchange, hgone, hnever, Int.sub_self]

end Ledger

end MoneyMarket
