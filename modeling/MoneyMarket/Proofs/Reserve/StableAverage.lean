import MoneyMarket.Proofs.Reserve.Bookings

/-!
# The average of stable rates

The average rate times the debt stands for the sum of all stable debts, each times its own rate. What
is added or removed brings or takes its own product. Products are rounded to wads, two for each change,
and the quotient is rounded once more, by half a unit for each unit of debt.
-/

namespace MoneyMarket.Reserve

open MoneyMarket.FixedPoint

variable {r s : Reserve} {p : Position} {rp : WithPosition}
  {rate other total change amount current next now held removed x : Int}

/-! ## Rounding -/

theorem ofRay_wads (amount : Int) : ofRay (amount * raysPerWad) = amount / 10 ^ 18 := by
  rw [ofRay, Int.cast_mul, cast_raysPerWad, cast_ray]
  ring

theorem weight_near (rate amount : Int) :
    |(weight rate amount : ℚ) - rate * amount / 10 ^ 18| ≤ 1 / 2 := by
  have hnear := rayRound_near rate (amount * raysPerWad)
  rwa [ofRay_wads, ← mul_div_assoc] at hnear

theorem quotient_keeps {weighed : Int} {sum : ℚ} (hnext : 0 < next)
    (h : |(weighed : ℚ) - sum / 10 ^ 18| ≤ 1) :
    |(divRound ray weighed (next * raysPerWad) : ℚ) * next - sum| ≤ 10 ^ 18 + next / 2 := by
  have hpos : (0 : ℚ) < next := by exact_mod_cast hnext
  have hquotient := scaled_near hpos.le
    (rayQuotient_near weighed (Int.mul_pos hnext (show 0 < raysPerWad by decide)))
  have hweighed := scaled_near (show (0 : ℚ) ≤ 10 ^ 18 by positivity) h
  have hexact : (next : ℚ) * (weighed / ofRay (next * raysPerWad)) = 10 ^ 18 * weighed := by
    rw [ofRay_wads]
    field_simp
  rw [hexact] at hquotient
  rw [mul_div_cancel₀ sum (by positivity)] at hweighed
  rw [abs_le] at *
  constructor <;> linarith

theorem blended_keeps (rate total other amount : Int) (hnext : 0 < next) :
    |(divRound ray (weight rate total + weight other amount) (next * raysPerWad) : ℚ) * next -
      (rate * total + other * amount)| ≤ 10 ^ 18 + next / 2 := by
  have hkept := weight_near rate total
  have hadded := weight_near other amount
  refine quotient_keeps hnext ?_
  push_cast
  rw [abs_le] at *
  constructor <;> linarith

theorem reduced_keeps (rate total other amount : Int) (hnext : 0 < next) :
    |(divRound ray (weight rate total - weight other amount) (next * raysPerWad) : ℚ) * next -
      (rate * total - other * amount)| ≤ 10 ^ 18 + next / 2 := by
  have hheld := weight_near rate total
  have hremoved := weight_near other amount
  refine quotient_keeps hnext ?_
  push_cast
  rw [abs_le] at *
  constructor <;> linarith

/-! ## Changes -/

def Outweighs (r : Reserve) (total rate amount : Int) : Prop :=
  ∃ held removed, (wadToRay total >>= rayMul r.averageStableRate) = .ok held ∧
    (wadToRay amount >>= rayMul rate) = .ok removed ∧ removed < held

theorem weight_ok_iff : (wadToRay amount >>= rayMul rate) = .ok x ↔
    0 ≤ rate ∧ 0 ≤ amount ∧ weight rate amount = x := by
  simp only [bind_ok_iff, wadToRay_ok_iff, rayMul_ok_iff]
  constructor
  · rintro ⟨_, ⟨hamount, rfl⟩, hrate, -, rfl⟩
    exact ⟨hrate, hamount, rfl⟩
  · rintro ⟨hrate, hamount, rfl⟩
    exact ⟨_, ⟨hamount, rfl⟩, hrate, Int.mul_nonneg hamount (by decide), rfl⟩

theorem stableAfterRemoving_lighter (hrate : 0 ≤ rate) (hless : amount < total)
    (h : r.Outweighs total rate amount) :
    r.stableAfterRemoving total amount rate = .ok (total - amount,
      divRound ray (weight r.averageStableRate total - weight rate amount)
        ((total - amount) * raysPerWad)) := by
  obtain ⟨_, _, hheld, hremoved, hlighter⟩ := h
  obtain ⟨haverage, -, rfl⟩ := weight_ok_iff.1 hheld
  obtain ⟨-, ha, rfl⟩ := weight_ok_iff.1 hremoved
  exact stableAfterRemoving_ok_iff.2
    (.inr ⟨hless, haverage, hrate, ha, if_neg (Int.not_le.2 hlighter)⟩)

section Changes

variable (hrate : 0 ≤ rate) (htotal : r.stableDebt now = .ok total) (hnext : 0 < total + change)
include hrate htotal hnext

theorem updateStableRate_adds (hchange : 0 ≤ change) :
    r.updateStableRate change rate now = .ok s ↔ 0 ≤ r.averageStableRate ∧
      r.withLoan ⟨total + change,
        divRound ray (weight r.averageStableRate total + weight rate change)
          ((total + change) * raysPerWad), now⟩ = s := by
  have hnonneg : 0 ≤ total := StableLoan.debt_nonneg (x := r.loan) htotal
  rw [updateStableRate_ok_iff]
  simp only [if_pos hchange, stableAfterAdding_ok_iff]
  constructor
  · rintro ⟨_, _, -, htotal', hx, rfl⟩
    cases htotal.symm.trans htotal'
    rcases hx with ⟨hnone, -⟩ | ⟨haverage, -, -, -, -, rfl⟩
    · omega
    · exact ⟨haverage, rfl⟩
  · rintro ⟨haverage, rfl⟩
    exact ⟨_, _, hrate, htotal, .inr ⟨haverage, hnonneg, hrate, hchange, hnext, rfl⟩, rfl⟩

theorem updateStableRate_removes (hchange : change < 0) (h : r.Outweighs total rate (-change)) :
    r.updateStableRate change rate now = .ok (r.withLoan
      ⟨total + change, divRound ray (weight r.averageStableRate total - weight rate (-change))
        ((total + change) * raysPerWad), now⟩) := by
  have hleft := stableAfterRemoving_lighter hrate (show -change < total by omega) h
  rw [Int.sub_neg] at hleft
  have hbranch : ¬ 0 ≤ change := by omega
  exact updateStableRate_ok_iff.2
    ⟨total, _, hrate, htotal, (if_neg hbranch).trans hleft, rfl⟩

/-- A change is made unless the average is negative, and keeps the sum. -/
theorem updateStableRate_keeps (h : change < 0 → r.Outweighs total rate (-change)) :
    ((∃ s, r.updateStableRate change rate now = .ok s) ↔ 0 ≤ r.averageStableRate) ∧
    ∀ s, r.updateStableRate change rate now = .ok s → s.principalStableDebt = total + change ∧
      |(s.averageStableRate * (total + change) : ℚ) -
        (r.averageStableRate * total + rate * change)| ≤ 10 ^ 18 + (total + change) / 2 := by
  by_cases hchange : 0 ≤ change
  · have hadds (s : Reserve) := updateStableRate_adds (s := s) hrate htotal hnext hchange
    constructor
    · simp only [hadds, exists_and_left, exists_eq', and_true]
    · intro s hs
      obtain ⟨-, rfl⟩ := (hadds s).1 hs
      have hkeeps := blended_keeps r.averageStableRate total rate change hnext
      push_cast at hkeeps
      exact ⟨rfl, hkeeps⟩
  · have hheavy := h (Int.not_le.1 hchange)
    have hremoves := updateStableRate_removes hrate htotal hnext (Int.not_le.1 hchange) hheavy
    obtain ⟨_, _, hheld, -⟩ := hheavy
    rw [hremoves]
    refine ⟨iff_of_true ⟨_, rfl⟩ (weight_ok_iff.1 hheld).1, ?_⟩
    rintro _ ⟨rfl⟩
    have hkeeps := reduced_keeps r.averageStableRate total rate (-change) hnext
    push_cast at hkeeps
    rw [mul_neg, sub_neg_eq_add] at hkeeps
    exact ⟨rfl, hkeeps⟩

end Changes

theorem mintStableDebt_ok_iff (hrate : 0 ≤ rate) (hcurrent : p.stableDebt now = .ok current)
    (ha : 0 < amount) : r.mintStableDebt p amount rate now = .ok rp ↔
      0 ≤ p.stableRate ∧ ∃ s, r.updateStableRate amount rate now = .ok s ∧
        (s, p.withLoan ⟨current + amount,
          divRound ray (weight p.stableRate current + weight rate amount)
            ((current + amount) * raysPerWad), now⟩) = rp := by
  have hnonneg : 0 ≤ current := StableLoan.debt_nonneg (x := p.loan) hcurrent
  have hnext : 0 < current + amount := by omega
  simp only [mintStableDebt, stableDebtStages, Stage.perform_cons_ok, lendStable, hcurrent, ok_bind,
    bind_ok_iff, blendedRate_ok_iff, pure_ok_iff]
  constructor
  · rintro ⟨_, ⟨_, ⟨hown, -, -, -, -, rfl⟩, rfl⟩, _, haverage, hdone⟩
    obtain ⟨s, hs, rfl⟩ := averageInStable_ok haverage
    cases hdone
    exact ⟨hown, s, hs, rfl⟩
  · rintro ⟨hown, s, hs, rfl⟩
    refine ⟨_, ⟨_, ⟨hown, hnonneg, hrate, Int.le_of_lt ha, hnext, rfl⟩, rfl⟩, _, ?_, rfl⟩
    rw [averageInStable, hs]
    rfl

theorem updateStableRate_total_iff (hrate : 0 ≤ rate) (ha : 0 < amount) :
    (∃ s, r.updateStableRate amount rate now = .ok s) ↔
      0 ≤ r.averageStableRate ∧ ∃ total, r.stableDebt now = .ok total := by
  have hadded {total : Int} (htotal : r.stableDebt now = .ok total) :
      (∃ s, r.updateStableRate amount rate now = .ok s) ↔ 0 ≤ r.averageStableRate := by
    have hnonneg : 0 ≤ total := StableLoan.debt_nonneg (x := r.loan) htotal
    exact (updateStableRate_keeps hrate htotal (by omega) fun hless => absurd hless (by omega)).1
  constructor
  · rintro ⟨s, hs⟩
    obtain ⟨total, -, -, htotal, -⟩ := updateStableRate_ok_iff.1 hs
    exact ⟨(hadded htotal).1 ⟨s, hs⟩, total, htotal⟩
  · rintro ⟨haverage, total, htotal⟩
    exact (hadded htotal).2 haverage

theorem mintStableDebt_keeps (hrate : 0 ≤ rate) (hcurrent : p.stableDebt now = .ok current)
    (ha : 0 < amount) :
    ((∃ rp, r.mintStableDebt p amount rate now = .ok rp) ↔
      0 ≤ p.stableRate ∧ 0 ≤ r.averageStableRate ∧ ∃ total, r.stableDebt now = .ok total) ∧
    ∀ rp, r.mintStableDebt p amount rate now = .ok rp →
      r.updateStableRate amount rate now = .ok rp.1 ∧
      rp.2.principalStableDebt = current + amount ∧
      |(rp.2.stableRate * (current + amount) : ℚ) - (p.stableRate * current + rate * amount)| ≤
        10 ^ 18 + (current + amount) / 2 := by
  have hmint (rp : WithPosition) : r.mintStableDebt p amount rate now = .ok rp ↔ _ :=
    mintStableDebt_ok_iff hrate hcurrent ha
  constructor
  · rw [← updateStableRate_total_iff hrate ha]
    constructor
    · rintro ⟨rp, hrp⟩
      obtain ⟨hown, s, hs, -⟩ := (hmint rp).1 hrp
      exact ⟨hown, s, hs⟩
    · rintro ⟨hown, s, hs⟩
      exact ⟨_, (hmint _).2 ⟨hown, s, hs, rfl⟩⟩
  · intro rp hrp
    obtain ⟨-, s, hs, rfl⟩ := (hmint rp).1 hrp
    have hnonneg : 0 ≤ current := StableLoan.debt_nonneg (x := p.loan) hcurrent
    have hkeeps := blended_keeps p.stableRate current rate amount (show 0 < current + amount by omega)
    push_cast at hkeeps
    exact ⟨hs, rfl, hkeeps⟩

/-- **The average keeps the weighted sum**, up to a wad and half a unit for each unit of debt. So it does
for a reserve, to whose debt an amount is added or of which one is removed, as long as the debt weighs
more than that, and for a position that takes on more. -/
theorem stableAverage_keeps_sum (hrate : 0 ≤ rate) :
    (∀ (r : Reserve) (total change now : Int), r.stableDebt now = .ok total → 0 < total + change →
      (change < 0 → r.Outweighs total rate (-change)) →
      ((∃ s, r.updateStableRate change rate now = .ok s) ↔ 0 ≤ r.averageStableRate) ∧
      ∀ s, r.updateStableRate change rate now = .ok s → s.principalStableDebt = total + change ∧
        |(s.averageStableRate * (total + change) : ℚ) -
          (r.averageStableRate * total + rate * change)| ≤ 10 ^ 18 + (total + change) / 2) ∧
    ∀ (r : Reserve) (p : Position) (current amount now : Int), p.stableDebt now = .ok current →
      0 < amount →
      ((∃ rp, r.mintStableDebt p amount rate now = .ok rp) ↔
        0 ≤ p.stableRate ∧ 0 ≤ r.averageStableRate ∧ ∃ total, r.stableDebt now = .ok total) ∧
      ∀ rp, r.mintStableDebt p amount rate now = .ok rp →
        r.updateStableRate amount rate now = .ok rp.1 ∧
        rp.2.principalStableDebt = current + amount ∧
        |(rp.2.stableRate * (current + amount) : ℚ) - (p.stableRate * current + rate * amount)| ≤
          10 ^ 18 + (current + amount) / 2 := by
  constructor
  · intro r total change now htotal hnext h
    exact updateStableRate_keeps hrate htotal hnext h
  · intro r p current amount now hcurrent ha
    exact mintStableDebt_keeps hrate hcurrent ha

def fewUnits : Reserve where
  asset := .text "DAI"
  config := .dai
  strategy := .kinked .stableTwo
  principalStableDebt := 10
  averageStableRate := 50000000000000000000000001

theorem fewUnits_keep_sum :
    (∃ s, fewUnits.updateStableRate 1 20000000000000000000000000 0 = .ok s ∧
      s.principalStableDebt = 11 ∧
      |(s.averageStableRate * (10 + 1) : ℚ) -
        (50000000000000000000000001 * 10 + 20000000000000000000000000)| ≤ 10 ^ 18 + (10 + 1) / 2) ∧
    (∃ s, fewUnits.updateStableRate (-3) 20000000000000000000000000 0 = .ok s ∧
      s.principalStableDebt = 7 ∧
      |(s.averageStableRate * (10 - 3) : ℚ) -
        (50000000000000000000000001 * 10 - 20000000000000000000000000 * 3)| ≤
          10 ^ 18 + (10 - 3) / 2) ∧
    ∃ rp, fewUnits.mintStableDebt { asset := .text "DAI" } 1 20000000000000000000000000 0 = .ok rp ∧
      rp.2.principalStableDebt = 1 ∧
      |(rp.2.stableRate : ℚ) - 20000000000000000000000000| ≤ 10 ^ 18 + 1 / 2 := by
  obtain ⟨hchanged, hlent⟩ :=
    stableAverage_keeps_sum (show 0 ≤ 20000000000000000000000000 by decide)
  obtain ⟨hadds, hadded⟩ := hchanged fewUnits 10 1 0 rfl (by decide)
    fun hless => absurd hless (by decide)
  obtain ⟨hremoves, hremoved⟩ := hchanged fewUnits 10 (-3) 0 rfl (by decide)
    fun _ => ⟨_, _, rfl, rfl, by decide⟩
  obtain ⟨hlends, hlent⟩ := hlent fewUnits { asset := .text "DAI" } 0 1 0 rfl (by decide)
  obtain ⟨s, hs⟩ := hadds.2 (by decide)
  obtain ⟨t, ht⟩ := hremoves.2 (by decide)
  obtain ⟨rp, hrp⟩ := hlends.2 ⟨by decide, by decide, 10, rfl⟩
  refine ⟨⟨s, hs, (hadded s hs).1, ?_⟩, ⟨t, ht, (hremoved t ht).1, ?_⟩,
    rp, hrp, (hlent rp hrp).2.1, ?_⟩
  · have hnear := (hadded s hs).2
    norm_num [fewUnits] at hnear ⊢
    exact hnear
  · have hnear := (hremoved t ht).2
    norm_num [fewUnits] at hnear ⊢
    exact hnear
  · have hnear := (hlent rp hrp).2.2
    norm_num at hnear ⊢
    exact hnear

end MoneyMarket.Reserve
