import MoneyMarket.Proofs.Ledger.Conservation

/-!
# Scaled claims

In every pool that a new one can become, each reserve has exactly the scaled supply and the scaled
variable debt that its positions have. So it is at every ledger that an operation passes through,
the share of the treasury apart, which is not on a position before the operation is committed.
-/

namespace MoneyMarket

open MoneyMarket.Reserve MoneyMarket.FixedPoint

namespace Ledger

variable {loans : Prop} {weight : Int} {held : Position → Int} {count : Reserve → Int}
variable {l m : Ledger}

/-! ## Runs of steps -/

theorem Steps.sound (h : Steps loans l m) (hl : Sound l) : Sound m :=
  h.preserves (fun hstep hl => hstep.sound hl) hl

theorem Tally.steps (t : Tally loans weight held count) (h : Steps loans l m) (hs : Sound l)
    (hl : Conserved held count l) : Conserved held count m := by
  have both : Sound m ∧ Conserved held count m := by
    refine h.preserves (I := fun l => Sound l ∧ Conserved held count l) ?_ ⟨hs, hl⟩
    rintro l m hstep ⟨hs, hl⟩
    exact ⟨hstep.sound hs, t.step hstep hs hl⟩
  exact both.2

/-! ## Operations -/

theorem Edited.setReserve (hl : Sound l) {a : Key} {r s : Reserve} (hr : l.reserve? a = some r)
    (h : Edited r s) : Sound (l.setReserve a s) := by
  have hkey := hl.key _ _ hr
  have hcredit := hl.credit _ _ hr
  have hasset : s.asset = r.asset := by rw [h]
  have haccrued : s.accruedToTreasury = r.accruedToTreasury := by rw [h]
  exact hl.setReserve (hasset ▸ hkey) (haccrued ▸ hcredit)

theorem Evolves.sound (h : Evolves loans l m) (hl : Sound l) : Sound m := by
  cases h with
  | same => exact hl
  | @commit n h treasury =>
    have hpaid : Steps loans n _ := Pool.creditTreasury_steps treasury n
    exact hpaid.sound (h.sound hl)
  | edit hr h => exact Edited.setReserve hl hr h
  | list hnew h => exact hl.setReserve (by rw [h.asset]) (Int.le_of_eq h.accruedToTreasury.symm)

theorem Tally.evolves (t : Tally loans weight held count) (h : Evolves loans l m) (hs : Sound l)
    (hl : Conserved held count l) : Conserved held count m := by
  cases h with
  | same => exact hl
  | commit h treasury =>
    exact t.steps (Pool.creditTreasury_steps treasury _) (h.sound hs) (t.steps h hs hl)
  | edit hr h => exact hl.setReserve hr (t.edited h)
  | @list asset r hnew h =>
    refine ⟨hl.nonneg, fun b => ?_⟩
    rw [total_setReserve, owed_setReserve, hl.total]
    split
    · rename_i hb
      rw [hb, t.listed h, owed, hnew]
      rfl
    · rfl

/-! ## What is counted -/

theorem supplyTally : Tally loans 1 Position.scaledBalance
    fun r => r.scaledTotalSupply - r.accruedToTreasury where
  weight_nonneg := Int.one_nonneg
  blank _ := rfl
  supply p x := by simp only; omega
  supply_le p _ := by omega
  switched _ _ := rfl
  accrued h := h.supply
  money _ _ := rfl
  average _ _ _ := rfl
  credit r := by simp only; omega
  moved h hp hle hcredit := by
    cases h with
    | nothing | borrowed | repaid | lent | averaged =>
      exact ⟨hp, by simp only [Reserve.withLoan, Position.withLoan]; omega⟩
    | supplied x hx => exact ⟨by simp only; omega, by simp only; omega⟩
    | withdrawn x hx hle' => exact ⟨by simp only; omega, by simp only; omega⟩
  edited h := by rw [h]
  listed h := by rw [h.scaledTotalSupply, h.accruedToTreasury, Int.sub_self]

theorem debtTally : Tally loans 0 Position.scaledVariableDebt Reserve.scaledVariableDebt where
  weight_nonneg := Int.le_refl 0
  blank _ := rfl
  supply p x := by simp only; omega
  supply_le p hp := by omega
  switched _ _ := rfl
  accrued h := h.scaledVariableDebt
  money _ _ := rfl
  average _ _ _ := rfl
  credit r := by simp only; omega
  moved h hp hle hcredit := by
    cases h with
    | nothing | supplied | withdrawn | lent | averaged =>
      exact ⟨hp, by simp only [Reserve.withLoan, Position.withLoan]; omega⟩
    | borrowed x hx => exact ⟨by simp only; omega, by simp only; omega⟩
    | repaid x hx hle' => exact ⟨by simp only; omega, by simp only; omega⟩
  edited h := by rw [h]
  listed h := h.scaledVariableDebt

/-- Supplies and variable debts are what the positions have of them. -/
structure Balanced (l : Ledger) : Prop where
  sound : Sound l
  supply : Conserved Position.scaledBalance
    (fun r => r.scaledTotalSupply - r.accruedToTreasury) l
  debt : Conserved Position.scaledVariableDebt Reserve.scaledVariableDebt l

theorem Balanced.steps (h : Steps loans l m) (hl : Balanced l) : Balanced m :=
  ⟨h.sound hl.sound, supplyTally.steps h hl.sound hl.supply, debtTally.steps h hl.sound hl.debt⟩

theorem Balanced.evolves (h : Evolves loans l m) (hl : Balanced l) : Balanced m :=
  ⟨h.sound hl.sound, supplyTally.evolves h hl.sound hl.supply,
    debtTally.evolves h hl.sound hl.debt⟩

theorem reserve?_empty (a : Key) : ({} : Ledger).reserve? a = none := rfl

theorem amount_empty (a u : Key) : ({} : Ledger).amount held a u = 0 := rfl

theorem Conserved.empty : Conserved held count {} := by
  refine ⟨fun a u => ?_, fun _ => rfl⟩
  rw [amount_empty]

theorem Sound.empty : Sound {} := by
  constructor <;> intro a r hr <;> rw [reserve?_empty] at hr <;> cases hr

theorem Balanced.empty : Balanced {} := ⟨.empty, .empty, .empty⟩

/-- Nothing is on its way to the treasury. -/
def Settled (l : Ledger) : Prop := ∀ a r, l.reserve? a = some r → r.accruedToTreasury = 0

theorem Settled.empty : Settled {} := by
  intro a r hr
  rw [reserve?_empty] at hr
  cases hr

theorem Settled.setReserve (hl : Settled l) {a : Key} {s : Reserve}
    (hs : s.accruedToTreasury = 0) : Settled (l.setReserve a s) := by
  intro b r hb
  rw [reserve?_setReserve] at hb
  split at hb
  · cases hb
    exact hs
  · exact hl b r hb

theorem Evolves.settled (h : Evolves loans l m) (hl : Settled l) : Settled m := by
  cases h with
  | same => exact hl
  | commit h treasury => exact fun a r hr => Pool.creditTreasury_settled treasury _ hr
  | edit hr h =>
    have hzero := hl _ _ hr
    exact hl.setReserve (by rw [h]; exact hzero)
  | list hnew h => exact hl.setReserve h.accruedToTreasury

end Ledger

/-! ## Clamps -/

/-- Whatever is burned of a position, the reserve loses the same. -/
def Reserve.BurnsExactly (r : Reserve) (p : Position) : Prop :=
  ∀ amount rp,
    (r.burnSupply p amount = .ok rp →
      r.scaledTotalSupply - rp.1.scaledTotalSupply = p.scaledBalance - rp.2.scaledBalance) ∧
    (r.burnVariableDebt p amount = .ok rp →
      r.scaledVariableDebt - rp.1.scaledVariableDebt =
        p.scaledVariableDebt - rp.2.scaledVariableDebt)

theorem Reserve.burnsExactly {r : Reserve} {p : Position} (hs : p.scaledBalance ≤ r.scaledTotalSupply)
    (hd : p.scaledVariableDebt ≤ r.scaledVariableDebt) : r.BurnsExactly p := by
  intro amount rp
  constructor <;> intro h
  · simp only [burnSupply, bind_ok_iff, pure_ok_iff] at h
    obtain ⟨x, hx, rfl⟩ := h
    have hb := scaledShare_bounds hx
    simp only
    omega
  · simp only [burnVariableDebt, bind_ok_iff, pure_ok_iff] at h
    obtain ⟨x, hx, rfl⟩ := h
    have hb := scaledShare_bounds hx
    simp only
    omega

namespace Ledger

variable {l : Ledger}

theorem Balanced.burnsExactly (hl : Balanced l) {user asset : Name} {r : Reserve}
    (hr : l.reserve? asset = some r) : r.BurnsExactly (l.position user asset) := by
  refine Reserve.burnsExactly ?_ ?_
  · have hle := amount_le_total hl.supply.nonneg asset user
    rw [hl.supply.total, owed_eq hr, amount_eq fun _ => rfl] at hle
    have hcredit := hl.sound.credit _ _ hr
    omega
  · have hle := amount_le_total hl.debt.nonneg asset user
    rwa [hl.debt.total, owed_eq hr, amount_eq fun _ => rfl] at hle

end Ledger

namespace Pool

open MoneyMarket.Ledger

variable {p : Pool}

theorem Attainable.balanced (h : Attainable p) : Balanced p.ledger :=
  h.induct (I := fun q => Balanced q.ledger) (fun _ _ => .empty) fun q op hq =>
    hq.evolves (after_onward q op).ledger

theorem Attainable.settled (h : Attainable p) : Settled p.ledger :=
  h.induct (I := fun q => Settled q.ledger) (fun _ _ => .empty) fun q op hq =>
    (after_onward q op).ledger.settled hq

/-- **Scaled claims.** A reserve has what its positions have, and nothing is left for the treasury
between operations. At no ledger that is passed through does a clamp discard anything. -/
theorem scaledClaims_conserved (h : Reachable p) :
    (∀ asset r, p.ledger.reserve? asset = some r →
      r.scaledTotalSupply = p.ledger.total Position.scaledBalance asset ∧
      r.accruedToTreasury = 0 ∧
      r.scaledVariableDebt = p.ledger.total Position.scaledVariableDebt asset) ∧
    ∀ l, Steps True p.ledger l → ∀ (user asset : Name) r, l.reserve? asset = some r →
      r.BurnsExactly (l.position user asset) := by
  have hb := h.attainable.balanced
  constructor
  · intro asset r hr
    have hsupply := hb.supply.total asset
    have hdebt := hb.debt.total asset
    have hzero := h.attainable.settled _ _ hr
    rw [owed_eq hr] at hsupply hdebt
    exact ⟨by omega, hzero, hdebt.symm⟩
  · intro l hl user asset r hr
    exact (hb.steps hl).burnsExactly hr

def lentForAYear : List Operation :=
  [.initReserve .dai (.kinked .stableTwo),
    .setPrice (.text "DAI") (.whole 1000000000000000000),
    .deposit (.text "DAI") 1000000 (.text "ana"),
    .deposit (.text "DAI") 500000 (.text "ben"),
    .borrow (.text "DAI") 300000 2 (.text "ana"),
    .advanceTime 31536000,
    .withdraw (.text "DAI") 200000 (.text "ben") none,
    .repay (.text "DAI") 100000 2 (.text "ana")]

theorem lentForAYear_reachable : Reachable (run {} lentForAYear) :=
  ⟨⟨{}, 0, _, rfl⟩, by decide +kernel⟩

theorem lentForAYear_conserved :
    ∃ r, (run {} lentForAYear).ledger.reserve? (.text "DAI") = some r ∧
      r.scaledTotalSupply = 1300660 ∧ r.scaledVariableDebt = 200995 ∧
      (run {} lentForAYear).ledger.amount Position.scaledBalance (.text "DAI")
        (.text "treasury") = 301 ∧
      r.scaledTotalSupply =
        (run {} lentForAYear).ledger.total Position.scaledBalance (.text "DAI") ∧
      r.accruedToTreasury = 0 ∧
      r.scaledVariableDebt =
        (run {} lentForAYear).ledger.total Position.scaledVariableDebt (.text "DAI") := by
  have hsome : ((run {} lentForAYear).ledger.reserve? (.text "DAI")).isSome := by decide +kernel
  obtain ⟨r, hr⟩ := Option.isSome_iff_exists.1 hsome
  have hfigures : ((run {} lentForAYear).ledger.reserve? (.text "DAI")).map (fun r =>
      (r.scaledTotalSupply, r.scaledVariableDebt)) = some (1300660, 200995) := by decide +kernel
  rw [hr, Option.map_some, Option.some.injEq, Prod.mk.injEq] at hfigures
  refine ⟨r, hr, hfigures.1, hfigures.2, by decide +kernel, ?_⟩
  exact (scaledClaims_conserved lentForAYear_reachable).1 _ _ hr

end Pool

end MoneyMarket
