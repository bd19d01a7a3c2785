import MoneyMarket.Proofs.Ledger.Outlook

/-!
# Visits

Most operations bring one reserve up to date and then change one account's position in it. Such a
visit leaves all other positions of the account and all other reserves. The reserve has the indices
that it projected before, so a position that was there would show the same balances.
-/

namespace MoneyMarket

open MoneyMarket.Reserve

namespace Ledger

/-- From `l` to `m` the account has visited one reserve, which was `r` and is `s` now, and its
position there is `pos`. -/
structure Visit (now : Int) (user asset : Name) (l : Ledger) (r : Reserve) (m : Ledger) (s : Reserve)
    (pos : Position) : Prop where
  before : l.reserve? asset = some r
  after : m.reserve? asset = some s
  position : m.position user asset = pos
  kept : (l.position? user asset).isSome → (m.position? user asset).isSome
  elsewhere : ∀ a, a ≠ asset.key → m.reserve? a = l.reserve? a
  others : ∀ p, (m.setPosition user asset p).userPositions user =
    (l.setPosition user asset p).userPositions user
  margin : m.marginUsers = l.marginUsers
  config : s.config = r.config
  time : s.lastUpdateTimestamp = now
  income : r.normalizedIncome now = .ok s.liquidityIndex
  debt : 0 < r.scaledVariableDebt → r.normalizedDebt now = .ok s.variableBorrowIndex
  stands : r.lastUpdateTimestamp = now → s.variableBorrowIndex = r.variableBorrowIndex
  running : Running now s

variable {now : Int} {user asset : Name} {l m n : Ledger} {r s t : Reserve} {pos : Position}

theorem position_setPosition (l : Ledger) (u : Key) (asset : Name) (p : Position) :
    (l.setPosition u asset p).position u asset = p := by
  simp [Ledger.position]

theorem setPosition_setPosition (l : Ledger) (u a : Key) (p q : Position) :
    ((l.setPosition u a p).setPosition u a q).userPositions u =
      (l.setPosition u a q).userPositions u := by
  simp only [userPositions_setPosition, if_true, Table.set_set]

/-! ## Bookings of a visit -/

theorem visit_of_accrue (hl : Timely now l) (h : l.book asset (.accrue now) = ⟨m, none⟩) :
    ∃ r s, Visit now user asset l r m s (l.position user asset) ∧ Updated now r s := by
  obtain ⟨r, s, hr, hs, rfl⟩ := bookReserve_done h
  have hupdated := (hl.running _ _ hr).updated_of_accrue hs
  refine ⟨r, s, ?_, hupdated⟩
  constructor
  · exact hr
  · simp
  · rfl
  · exact id
  · intro a ha
    simp [ha]
  · intro _
    rfl
  · rfl
  · exact hupdated.config
  · exact hupdated.time
  · exact hupdated.income
  · exact hupdated.debt
  · exact hupdated.stands
  · exact hupdated.running

theorem Visit.setReserve (h : Visit now user asset l r m s pos) (hconfig : t.config = s.config)
    (htime : t.lastUpdateTimestamp = now) (hincome : t.liquidityIndex = s.liquidityIndex)
    (hdebt : t.variableBorrowIndex = s.variableBorrowIndex) (hrate : 0 ≤ t.currentLiquidityRate) :
    Visit now user asset l r (m.setReserve asset t) t pos := by
  refine { h with
    after := ?_, elsewhere := ?_, config := ?_, time := htime
    income := ?_, debt := ?_, stands := ?_
    running := ⟨hrate, ?_, ?_, Int.le_of_eq htime⟩ }
  · simp
  · intro a ha
    simp [ha, h.elsewhere a ha]
  · rw [hconfig, h.config]
  · rw [hincome, h.income]
  · intro hpos
    rw [hdebt, h.debt hpos]
  · intro hnow
    rw [hdebt, h.stands hnow]
  · rw [hincome]
    exact h.running.income
  · rw [hdebt]
    exact h.running.debt

theorem Visit.setPosition (h : Visit now user asset l r m s pos) (p : Position) :
    Visit now user asset l r (m.setPosition user asset p) s p := by
  refine { h with position := position_setPosition _ _ _ _, kept := ?_, others := ?_ }
  · intro _
    simp
  · intro q
    rw [setPosition_setPosition, h.others]

theorem Visit.setOther (h : Visit now user asset l r m s pos) {v : Key} (hv : v ≠ user.key) (a : Key)
    (p : Position) : Visit now user asset l r (m.setPosition v a p) s pos := by
  have hsame : (m.setPosition v a p).userPositions user = m.userPositions user := by
    rw [userPositions_setPosition, if_neg (Ne.symm hv)]
  have hposition : ∀ b, (m.setPosition v a p).position? user b = m.position? user b := by
    intro b
    unfold Ledger.position?
    rw [hsame]
  refine { h with position := ?_, kept := ?_, others := ?_ }
  · rw [← h.position]
    unfold Ledger.position
    rw [hposition]
  · rw [hposition]
    exact h.kept
  · intro q
    rw [← h.others, userPositions_setPosition, hsame, userPositions_setPosition]

theorem Visit.openPosition (h : Visit now user asset l r m s pos) :
    Visit now user asset l r (m.openPosition user asset) s pos := by
  have hopen := h.setPosition pos
  unfold Ledger.openPosition
  rwa [h.position]

theorem Visit.switch (h : Visit now user asset l r m s pos) (enabled : Bool) :
    Visit now user asset l r
      (m.modifyPosition user asset fun p => { p with usedAsCollateral := enabled }) s
      { pos with usedAsCollateral := enabled } := by
  unfold modifyPosition
  rw [h.position]
  exact h.setPosition _

theorem Visit.switchIf (h : Visit now user asset l r m s pos) (switched enabled : Bool) :
    Visit now user asset l r
      (if switched then m.modifyPosition user asset fun p => { p with usedAsCollateral := enabled }
        else m) s
      { pos with usedAsCollateral := if switched then enabled else pos.usedAsCollateral } := by
  cases switched with
  | false => exact h
  | true => exact h.switch enabled

theorem Visit.accrue (h : Visit now user asset l r m s pos)
    (hb : m.book asset (.accrue now) = ⟨n, none⟩) :
    ∃ t, Visit now user asset l r n t pos ∧ Updated now s t := by
  obtain ⟨s', t, hs, ht, rfl⟩ := bookReserve_done hb
  rw [h.after, Option.some.injEq] at hs
  subst hs
  have hupdated := h.running.updated_of_accrue ht
  refine ⟨t, h.setReserve hupdated.config hupdated.time ?_ ?_ hupdated.running.rate, hupdated⟩
  · exact hupdated.liquidityIndex_eq h.time
  · exact hupdated.stands h.time

theorem Visit.money (h : Visit now user asset l r m s pos) {change : Int}
    (hb : m.book asset (.money change) = ⟨n, none⟩) :
    Visit now user asset l r n { s with availableLiquidity := s.availableLiquidity + change } pos := by
  obtain ⟨s', t, hs, ht, rfl⟩ := bookReserve_done hb
  rw [h.after, Option.some.injEq] at hs
  subst hs
  cases ht
  exact h.setReserve rfl h.time rfl rfl h.running.rate

theorem Visit.bookPosition (h : Visit now user asset l r m s pos)
    {stages : List (Stage WithPosition)} (hb : m.bookPosition user asset stages = ⟨n, none⟩)
    (hmoved : ∀ rp, Stage.perform stages (s, pos) = .ok rp → Moved True s pos rp) :
    ∃ rp, Stage.perform stages (s, pos) = .ok rp ∧ Visit now user asset l r n rp.1 rp.2 := by
  obtain ⟨s', rp, hs, hdone, rfl⟩ := bookPosition_done hb
  rw [h.after, Option.some.injEq] at hs
  subst hs
  rw [h.position] at hdone
  have hm := hmoved rp hdone
  refine ⟨rp, hdone, ?_⟩
  have hreserve : Visit now user asset l r ((m.openPosition user asset).setReserve asset rp.1)
      rp.1 pos := by
    apply h.openPosition.setReserve hm.config <;> cases hm <;>
      first | rfl | exact h.time | exact h.running.rate
  exact hreserve.setPosition rp.2

theorem Visit.stage (h : Visit now user asset l r m s pos) {stage : Stage WithPosition}
    (hb : m.bookPosition user asset [stage] = ⟨n, none⟩)
    (hmoved : ∀ rp, stage (s, pos) = .ok rp → Moved True s pos rp) :
    ∃ rp, stage (s, pos) = .ok rp ∧ Visit now user asset l r n rp.1 rp.2 := by
  obtain ⟨rp, hdone, hvisit⟩ := h.bookPosition hb fun rp hrp =>
    hmoved rp (Stage.perform_single_ok.1 hrp)
  exact ⟨rp, Stage.perform_single_ok.1 hdone, hvisit⟩

theorem Visit.transfer (h : Visit now user asset l r m s pos) {target : Name}
    (hother : target.key ≠ user.key) {amount : Int}
    (hb : m.book asset (.transferSupply user target amount) = ⟨n, none⟩) :
    ∃ x, scaledShare pos.scaledBalance s.liquidityIndex amount = .ok x ∧
      Visit now user asset l r n s { pos with scaledBalance := pos.scaledBalance - x } := by
  obtain ⟨s', x, hs, hx, rfl⟩ := bookTransfer_done hb
  rw [h.after, Option.some.injEq] at hs
  subst hs
  have hopened := h.openPosition.setOther hother asset ((m.openPosition user asset).position target asset)
  have hopened : Visit now user asset l r
      ((m.openPosition user asset).openPosition target asset) s pos := hopened
  unfold transferShare at hx
  rw [hopened.position] at hx
  refine ⟨x, hx, ?_⟩
  unfold modifyPosition
  rw [hopened.position]
  exact (hopened.setPosition _).setOther hother _ _

/-! ## What a visit comes to -/

/-- A visit changes no balance that a position has in the reserve, as long as its debt is counted. -/
theorem Visit.alike (h : Visit now user asset l r m s pos) {p : Position}
    (hcounted : p.scaledVariableDebt ≠ 0 → 0 < r.scaledVariableDebt) : Alike now p r s :=
  .of_stored h.config h.time h.income fun howes => h.debt (hcounted howes)

theorem Visit.position?_elsewhere (h : Visit now user asset l r m s pos) {a : Key}
    (ha : a ≠ asset.key) : m.position? user a = l.position? user a := by
  have hset : (m.setPosition user asset pos).position? user a =
      (l.setPosition user asset pos).position? user a := by
    unfold Ledger.position?
    rw [h.others]
  simpa [ha] using hset

theorem Visit.opened (h : Visit now user asset l r m s pos)
    (hopen : (l.position? user asset).isSome ∨ pos ≠ { asset := asset }) :
    m.position? user asset = some pos := by
  have hpos := h.position
  unfold Ledger.position at hpos
  cases hp : m.position? user asset with
  | some p =>
    rw [hp] at hpos
    exact congrArg some hpos
  | none =>
    rw [hp] at hpos
    rcases hopen with hsome | hne
    · have := h.kept hsome
      simp [hp] at this
    · exact absurd hpos.symm hne

/-- After a visit the account sees what it would have seen before with the position of now, as long
as the reserve counted the debt of that position. -/
theorem Visit.sameFor (h : Visit now user asset l r m s pos)
    (hopen : (l.position? user asset).isSome ∨ pos ≠ { asset := asset })
    (hcounted : pos.scaledVariableDebt ≠ 0 → 0 < r.scaledVariableDebt) :
    SameFor now user (l.setPosition user asset pos) m := by
  have hset : m.userPositions user = (l.setPosition user asset pos).userPositions user := by
    rw [← h.others, userPositions_setPosition, if_pos rfl]
    exact (Table.set_get? (h.opened hopen)).symm
  refine ⟨hset, ?_, ?_, ?_⟩
  · unfold usesMargin
    rw [h.margin]
    rfl
  · intro a
    by_cases ha : a = asset.key
    · rw [ha, h.after, reserve?_setPosition, h.before]
      simp [h.config]
    · rw [h.elsewhere a ha]
      rfl
  · intro a p r' s' hp hr hs
    rw [reserve?_setPosition] at hr
    by_cases ha : a = asset.key
    · subst ha
      rw [h.before, Option.some.injEq] at hr
      rw [h.after, Option.some.injEq] at hs
      subst hr hs
      obtain rfl : pos = p := by simpa using hp
      exact h.alike hcounted
    · rw [h.elsewhere a ha, hr, Option.some.injEq] at hs
      subst hs
      exact .refl _

end Ledger

end MoneyMarket
