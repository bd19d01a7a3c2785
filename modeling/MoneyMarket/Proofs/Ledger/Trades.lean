import MoneyMarket.Proofs.Ledger.Movements

/-!
# Trades

A deposit, a withdrawal, a variable-rate loan and its repayment visit one reserve and change one
stored amount by a share. As long as no time passes, the reserve keeps its indices from one such
trade to the next, so the shares of many trades add up.
-/

namespace MoneyMarket.Ledger

open MoneyMarket.FixedPoint MoneyMarket.LedgerWork MoneyMarket.Pool MoneyMarket.Reserve

variable {now : Int} {user asset : Name} {l m : Ledger} {r s : Reserve} {pos pos' : Position}

/-- The two kinds of stored amounts that bear interest by an index. -/
inductive Side where
  | supply
  | debt

namespace Side

def index : Side → Reserve → Int
  | supply, r => r.liquidityIndex
  | debt, r => r.variableBorrowIndex

def holding : Side → Holding
  | supply => .supply
  | debt => .floating

def stored : Side → Position → Int
  | supply, pos => pos.scaledBalance
  | debt, pos => pos.scaledVariableDebt

def shown? (side : Side) (l : Ledger) (now : Int) (user asset : Key) : Option Int :=
  (l.reserve? asset).bind fun r => match side with
    | supply => (l.supplyOf user asset r now).toOption
    | debt => (l.debtsOf user asset r now).toOption.map Prod.snd

theorem shown?_supply_iff {user asset : Key} {x : Int} :
    supply.shown? l now user asset = some x ↔ l.Holds now user asset x := by
  simp only [shown?, Option.bind_eq_some_iff, toOption_eq_some_iff, Holds]

theorem shown?_debt_iff {user asset : Key} {x : Int} :
    debt.shown? l now user asset = some x ↔ ∃ stable, l.Owes now user asset stable x := by
  simp only [shown?, Option.bind_eq_some_iff, Option.map_eq_some_iff, toOption_eq_some_iff,
    Prod.exists, exists_eq_right, Owes]
  exact ⟨fun ⟨r, hr, stable, h⟩ => ⟨stable, r, hr, h⟩, fun ⟨stable, r, hr, h⟩ => ⟨r, hr, stable, h⟩⟩

@[simp] theorem stored_blank (side : Side) (name : Name) : side.stored { asset := name } = 0 := by
  cases side <;> rfl

end Side

variable {side : Side} {index n moved : Int}

/-- What `n` trades of an account in one reserve have done, without time passing. -/
structure Trade (side : Side) (now : Int) (user asset : Key) (index n moved : Int) (l m : Ledger) :
    Prop where
  reserve : ∃ s, m.reserve? asset = some s ∧ side.index s = index ∧ s.lastUpdateTimestamp = now
  stands : ∀ r, l.reserve? asset = some r → r.lastUpdateTimestamp = now → side.index r = index
  shown : ∀ x, side.shown? l now user asset = some x →
    x = mulRound ray halfRay (l.amount side.stored asset user) index ∧
    side.shown? m now user asset =
      some (mulRound ray halfRay (m.amount side.stored asset user) index)
  tracks : Tracks index n moved
    (m.amount side.stored asset user - l.amount side.stored asset user)

theorem Trade.trans {user asset : Key} {index' n' moved' : Int} {k : Ledger}
    (h : Trade side now user asset index n moved l m)
    (h' : Trade side now user asset index' n' moved' m k) :
    Trade side now user asset index (n + n') (moved + moved') l k := by
  obtain ⟨s, hs, rfl, htime⟩ := h.reserve
  obtain rfl := h'.stands s hs htime
  refine ⟨h'.reserve, h.stands, ?_, ?_⟩
  · intro x hx
    obtain ⟨hshown, hnext⟩ := h.shown x hx
    exact ⟨hshown, (h'.shown _ hnext).2⟩
  · have hsum := h.tracks.add h'.tracks
    rwa [show ∀ a b c : Int, b - a + (c - b) = c - a by omega] at hsum

theorem Side.shifts (h : pos.Moves now s side.holding moved pos') :
    Shifts (side.index s) (side.stored pos) moved (side.stored pos') ∧ pos'.loan = pos.loan := by
  cases side with
  | supply =>
    cases h with
    | supply h => exact ⟨h, rfl⟩
  | debt =>
    cases h with
    | floating h => exact ⟨h, rfl⟩

theorem Side.stored_nonneg (side : Side) (hl : Timely now l) (user asset : Name) :
    0 ≤ side.stored (l.position user asset) := by
  cases side with
  | supply => exact hl.supply_nonneg user asset
  | debt => exact hl.debt_nonneg user asset

theorem Movement.trade (h : Movement side.holding now user asset moved l r m s pos)
    (hl : Timely now l) (hindex : ray ≤ side.index s) :
    Trade side now user asset (side.index s) 1 moved l m := by
  obtain ⟨hvisit, hmoves⟩ := h
  obtain ⟨hshifts, hloan⟩ := Side.shifts hmoves
  have hnonneg := hshifts.nonneg (side.stored_nonneg hl user asset)
  have hbefore : l.amount side.stored asset user = side.stored (l.position user asset) :=
    amount_eq side.stored_blank
  have hafter : m.amount side.stored asset user = side.stored pos := by
    rw [amount_eq side.stored_blank, hvisit.position]
  constructor
  · exact ⟨s, hvisit.after, rfl, hvisit.time⟩
  · intro r' hr' htime
    rw [hvisit.before, Option.some.injEq] at hr'
    subst hr'
    cases side with
    | supply =>
      have hincome := hvisit.income
      rw [normalizedIncome_updated htime, Except.ok.injEq] at hincome
      exact hincome
    | debt => exact (hvisit.stands htime).symm
  · intro x hx
    rw [hbefore, hafter]
    cases side with
    | supply =>
      rw [Side.shown?_supply_iff] at hx ⊢
      exact ⟨hvisit.held_before hl hx, hvisit.held_after hnonneg⟩
    | debt =>
      rw [Side.shown?_debt_iff] at hx ⊢
      obtain ⟨stable, howes⟩ := hx
      obtain ⟨hstable, hfloating⟩ := hvisit.owed_before hl howes
      refine ⟨hfloating, stable, hvisit.owed_after hnonneg ?_⟩
      rw [← Position.debt_loan, hloan]
      exact hstable
  · rw [hbefore, hafter]
    exact hshifts.tracks hindex

theorem SameFor.shown {v a : Key} {x : Int} (h : SameFor now v l m)
    (hx : side.shown? l now v a = some x) : side.shown? m now v a = some x := by
  cases side with
  | supply =>
    rw [Side.shown?_supply_iff] at hx ⊢
    exact h.holds hx
  | debt =>
    rw [Side.shown?_debt_iff] at hx ⊢
    obtain ⟨stable, howes⟩ := hx
    exact ⟨stable, h.owes howes⟩

theorem Trade.creditTreasury {user asset treasury : Key} (hv : user ≠ treasury)
    (h : Trade side now user asset index n moved l m) :
    Trade side now user asset index n moved l (Pool.creditTreasury treasury m) := by
  have hsame : SameFor now user m (Pool.creditTreasury treasury m) := creditTreasury_sameFor hv m
  have hstored : (Pool.creditTreasury treasury m).amount side.stored asset user =
      m.amount side.stored asset user := by
    unfold amount
    rw [hsame.position?]
  obtain ⟨s, hs, hindex, htime⟩ := h.reserve
  refine ⟨⟨{ s with accruedToTreasury := 0 }, ?_, ?_, htime⟩, h.stands, ?_, ?_⟩
  · rw [Pool.reserve?_creditTreasury, hs]
    rfl
  · rw [← hindex]
    cases side <;> rfl
  · intro x hx
    obtain ⟨hshown, hnext⟩ := h.shown x hx
    rw [hstored]
    exact ⟨hshown, hsame.shown hnext⟩
  · rw [hstored]
    exact h.tracks

end MoneyMarket.Ledger
