import MoneyMarket.Proofs.Pool.Timely

/-!
# Indices

Both indices of a reserve start at one and never fall.
-/

namespace MoneyMarket

open MoneyMarket.FixedPoint MoneyMarket.Reserve

structure Reserve.Grown (r : Reserve) : Prop where
  income : ray ≤ r.liquidityIndex
  debt : ray ≤ r.variableBorrowIndex

theorem Reserve.Grown.accrue {r s : Reserve} {now : Int} (h : r.Grown) (hr : Running now r)
    (hs : r.accrue now = .ok s) : s.Grown := by
  obtain ⟨hincome, hdebt⟩ := hr.indices_le hs
  exact ⟨Int.le_trans h.income hincome, Int.le_trans h.debt hdebt⟩

namespace Ledger

variable {now : Int} {named : Key → Prop} {l m : Ledger}

def Grown (l : Ledger) : Prop := ∀ a r, l.reserve? a = some r → r.Grown

theorem Grown.setReserve (hl : l.Grown) {a : Key} {r : Reserve} (hr : r.Grown) :
    (l.setReserve a r).Grown := by
  intro b s hs
  rw [reserve?_setReserve] at hs
  split at hs
  · cases hs
    exact hr
  · exact hl b s hs

theorem Turn.grown (h : Turn now named l m) (hl : Timely now l) (hg : l.Grown) : m.Grown := by
  cases h with
  | accrue hr hs => exact hg.setReserve ((hg _ _ hr).accrue (hl.running _ _ hr) hs)
  | money hr change =>
    have hr := hg _ _ hr
    exact hg.setReserve ⟨hr.income, hr.debt⟩
  | @move user asset r rp _ hr hm =>
    have hr := hg _ _ hr
    have hmoved : rp.1.Grown := by cases hm <;> exact ⟨hr.income, hr.debt⟩
    have hopened : (l.openPosition user asset).Grown := hg
    exact hopened.setReserve hmoved
  | handOver | openPosition | switch | switchMargin => exact hg

theorem Turns.grown (h : Turns now named l m) (hl : Timely now l) (hg : l.Grown) : m.Grown := by
  have both : Timely now m ∧ m.Grown := by
    refine h.preserves (I := fun m => Timely now m ∧ m.Grown) ?_ ⟨hl, hg⟩
    rintro k n hturn ⟨hk, hgrown⟩
    exact ⟨hturn.timely hk, hturn.grown hk hgrown⟩
  exact both.2

theorem Grown.creditTreasury (hl : l.Grown) (treasury : Key) :
    (Pool.creditTreasury treasury l).Grown := by
  intro a r hr
  rw [Pool.reserve?_creditTreasury] at hr
  obtain ⟨s, hs, rfl⟩ := Option.map_eq_some_iff.1 hr
  exact ⟨(hl a s hs).income, (hl a s hs).debt⟩

end Ledger

namespace Pool

open MoneyMarket.Ledger

variable {p q : Pool}

theorem Administered.grown (h : Administered p q) (hp : p.ledger.Grown) : q.ledger.Grown := by
  cases h with
  | same hledger _ => rwa [hledger]
  | edited hr h =>
    have hs := hp _ _ hr
    refine hp.setReserve ?_
    rw [h]
    exact ⟨hs.income, hs.debt⟩
  | @listed config strategy _ h =>
    obtain ⟨_, r, hr, rfl⟩ := initReserve_ok h
    have hnew : Grown { asset := config.symbol, config, strategy, lastUpdateTimestamp := p.clock } :=
      ⟨Int.le_refl ray, Int.le_refl ray⟩
    have hone := Int.le_of_lt ray_pos
    exact hp.setReserve (hnew.accrue ⟨Int.le_refl 0, hone, hone, Int.le_refl _⟩ hr)

theorem Attainable.grown (h : Attainable p) : p.ledger.Grown := by
  have both : Timely p.clock p.ledger ∧ p.ledger.Grown := by
    apply h.induct (I := fun q => Timely q.clock q.ledger ∧ q.ledger.Grown)
    · intro params clock
      refine ⟨Attainable.timely ⟨params, clock, [], rfl⟩, ?_⟩
      intro a r hr
      rw [reserve?_empty] at hr
      cases hr
    · rintro q op ⟨hq, hgrown⟩
      refine ⟨after_timely hq op, ?_⟩
      cases htx : q.transaction? op with
      | none => exact (after_administered htx).grown hgrown
      | some work =>
        rcases after_transaction htx with h | ⟨_, l, _, hturns, h⟩ <;> rw [h]
        · exact hgrown
        · exact (hturns.grown hq hgrown).creditTreasury _
  exact both.2

end Pool

end MoneyMarket
