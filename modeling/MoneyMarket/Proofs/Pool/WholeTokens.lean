import MoneyMarket.Proofs.Pool.Timely

/-!
# Whole tokens

A reserve stays listed, and configured as it was listed. So tokens that are all whole in the end were
so all along, and a run to a reachable pool passes through reachable pools only.
-/

namespace MoneyMarket.Pool

open MoneyMarket.Ledger MoneyMarket.LedgerWork MoneyMarket.Reserve

variable {p q : Pool} {a : Key} {r : Reserve}

theorem config_setReserve {l : Ledger} {b : Key} {s t : Reserve} (hs : l.reserve? b = some s)
    (hconfig : t.config = s.config) (hr : l.reserve? a = some r) :
    ∃ u, (l.setReserve b t).reserve? a = some u ∧ u.config = r.config := by
  have hsame := map_reserve?_setReserve hs (f := Reserve.config) hconfig a
  rw [hr] at hsame
  exact Option.map_eq_some_iff.1 hsame

theorem Administered.config (h : Administered p q) (hr : p.ledger.reserve? a = some r) :
    ∃ s, q.ledger.reserve? a = some s ∧ s.config = r.config := by
  cases h with
  | same hledger => exact ⟨r, by rw [hledger, hr], rfl⟩
  | edited hs h =>
    have hconfig := congrArg Reserve.config h
    exact config_setReserve hs hconfig hr
  | listed h =>
    obtain ⟨hnew, s, _, rfl⟩ := initReserve_ok h
    have hother : a ≠ _ := fun ha => by
      rw [ha, hnew] at hr
      cases hr
    exact ⟨r, by simp [hother, hr], rfl⟩

theorem after_config (p : Pool) (op : Operation) (hr : p.ledger.reserve? a = some r) :
    ∃ s, (p.after op).ledger.reserve? a = some s ∧ s.config = r.config := by
  cases htx : p.transaction? op with
  | none => exact (after_administered htx).config hr
  | some work =>
    rcases after_transaction htx with h | ⟨_, l, _, hturns, h⟩ <;> rw [h]
    · exact ⟨r, hr, rfl⟩
    · have hkept := hturns.configs a
      rw [hr] at hkept
      obtain ⟨s, hs, hconfig⟩ := Option.map_eq_some_iff.1 hkept
      refine ⟨{ s with accruedToTreasury := 0 }, ?_, hconfig⟩
      rw [commit, reserve?_creditTreasury, hs, Option.map_some]

theorem whole_of_after {op : Operation} (h : (p.after op).ledger.WholeTokens) :
    p.ledger.WholeTokens := by
  intro a r hr
  obtain ⟨s, hs, hconfig⟩ := after_config p op hr
  exact hconfig ▸ h a s hs

theorem whole_of_run {ops : List Operation} (h : (p.run ops).ledger.WholeTokens) :
    p.ledger.WholeTokens := by
  induction ops generalizing p with
  | nil => exact h
  | cons op rest ih => exact whole_of_after (ih h)

theorem Reachable.earlier {ops : List Operation} (hp : Attainable p) (h : Reachable (p.run ops)) :
    Reachable p := ⟨hp, whole_of_run h.whole⟩

end MoneyMarket.Pool
