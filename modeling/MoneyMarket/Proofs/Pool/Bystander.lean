import MoneyMarket.Proofs.Pool.Timely

/-!
# Accounts that are not named

An operation may accrue reserves that other accounts use, too, and change their indices, rates and
times. The balances and reports of those accounts are the same before and after: pending interest is
shown before it is stored.
-/

namespace MoneyMarket

structure Balances where
  supply : Except Fault Int
  variableDebt : Except Fault Int
  stableDebt : Except Fault Int

namespace Pool

open MoneyMarket.Ledger

variable {p : Pool} {op : Operation} {v : Key}

/-- The balances of a user in a listed asset; none where there is no position. -/
def balances? (p : Pool) (asset user : Key) : Option Balances :=
  match p.ledger.reserve? asset, p.ledger.position? user asset with
  | some r, some pos =>
    some ⟨pos.supplyBalance r p.clock, pos.variableDebt r p.clock, pos.stableDebt p.clock⟩
  | _, _ => none

def healthFactor? (p : Pool) (user : Key) : Option Quantity :=
  (p.solvency user).toOption.map (·.healthFactor)

theorem transaction?_of_accounts (h : op.accounts ≠ []) (p : Pool) :
    ∃ work, p.transaction? op = some work := by
  cases op <;> simp_all [Operation.accounts, transaction?]

theorem after_sameFor (hp : Timely p.clock p.ledger) {work : LedgerWork (Receipt Outcome)}
    (htx : p.transaction? op = some work) (hv : v ∉ op.accounts)
    (ht : v ≠ .text p.params.treasury) : SameFor p.clock v p.ledger (p.after op).ledger := by
  rcases after_transaction htx with h | ⟨_, l, _, hturns, h⟩ <;> rw [h]
  · exact .refl _
  · exact (hturns.sameFor hp hv).trans (creditTreasury_sameFor ht l)

theorem balances?_congr {q : Pool} (hclock : q.clock = p.clock)
    (h : SameFor p.clock v p.ledger q.ledger) (asset : Key) :
    q.balances? asset v = p.balances? asset v := by
  have hconfig := h.configs asset
  unfold balances?
  rw [h.position?, hclock]
  cases hpos : p.ledger.position? v asset with
  | none => cases p.ledger.reserve? asset <;> cases q.ledger.reserve? asset <;> rfl
  | some pos =>
    cases hr : p.ledger.reserve? asset <;> cases hs : q.ledger.reserve? asset <;>
      simp only [hr, hs, Option.map_some, Option.map_none, reduceCtorEq] at hconfig
    · rfl
    · have halike := h.alike asset pos _ _ hpos hr hs
      simp only [halike.supply, halike.debt]

theorem solvency_congr {q : Pool} (hclock : q.clock = p.clock)
    (hsurroundings : q.surroundings = p.surroundings)
    (h : SameFor p.clock v p.ledger q.ledger) : q.solvency v = p.solvency v := by
  unfold solvency
  rw [hclock, hsurroundings]
  exact h.solvency

theorem surroundings_after_transaction {work : LedgerWork (Receipt Outcome)}
    (htx : p.transaction? op = some work) : (p.after op).surroundings = p.surroundings := by
  rcases after_transaction htx with h | ⟨_, _, _, _, h⟩ <;> rw [h]
  rfl

/-- **Isolation.** An account that an operation does not name has the same balances in every reserve
and the same report after it as before, unless it is the treasury. -/
theorem bystander_unaffected (h : Reachable p) (hop : op.accounts ≠ []) (hv : v ∉ op.accounts)
    (ht : v ≠ .text p.params.treasury) :
    (p.after op).clock = p.clock ∧
    (∀ asset, (p.after op).balances? asset v = p.balances? asset v) ∧
    (p.after op).solvency v = p.solvency v := by
  obtain ⟨work, htx⟩ := transaction?_of_accounts hop p
  have hclock := clock_after_transaction htx
  have hsame := after_sameFor h.attainable.timely htx hv ht
  refine ⟨hclock, ?_, ?_⟩
  · intro asset
    exact balances?_congr hclock hsame asset
  · exact solvency_congr hclock (surroundings_after_transaction htx) hsame

def owedForAYear : List Operation :=
  [.initReserve .dai (.kinked .stableTwo),
    .setPrice (.text "DAI") (.whole 1000000000000000000),
    .deposit (.text "DAI") 1000000 (.text "ana"),
    .deposit (.text "DAI") 500000 (.text "ben"),
    .borrow (.text "DAI") 300000 2 (.text "ana"),
    .advanceTime 31536000]

/-- The repayment stores the interest that the other supplier has been shown before. -/
theorem bystander_of_repayment :
    let p := run {} owedForAYear
    let op := Operation.repay (.text "DAI") 100000 2 (.text "ana")
    (p.ledger.reserve? (.text "DAI")).map Reserve.liquidityIndex = some FixedPoint.ray ∧
    ((p.after op).ledger.reserve? (.text "DAI")).map Reserve.liquidityIndex =
      some 1001800000000000000000000000 ∧
    (p.balances? (.text "DAI") (.text "ben")).bind (·.supply.toOption) = some 500900 ∧
    (p.after op).clock = p.clock ∧
    (∀ asset, (p.after op).balances? asset (.text "ben") = p.balances? asset (.text "ben")) ∧
    (p.after op).solvency (.text "ben") = p.solvency (.text "ben") := by
  intro p op
  have hreachable : Reachable p := ⟨⟨{}, 0, owedForAYear, rfl⟩, by decide +kernel⟩
  refine ⟨by decide +kernel, by decide +kernel, by decide +kernel, ?_⟩
  exact bystander_unaffected hreachable (by decide) (by decide) (by decide)

end Pool

end MoneyMarket
