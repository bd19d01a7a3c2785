import MoneyMarket.Proofs.Numeral.Plain
import MoneyMarket.Proofs.Progress
import MoneyMarket.Scenario.Field

/-!
# Amounts as decimals

An amount of whole tokens comes as a decimal and becomes a whole number of units, and so do rates
and prices. The decimal is read exactly and the fraction of a unit is cut off, but in between the
product keeps only `precision` significant digits. So an amount is converted exactly while it has no
more digits than that.
-/

namespace MoneyMarket

open Numeral Scenario

namespace PlainNumeral

open Decimal (significant Short)

variable (d : PlainNumeral) (k : Nat)

/-- The whole units of `10 ^ (-k)` that the numeral says, a fraction of one cut off. -/
def units : Int := (d.numerator * tenPow k).tdiv (tenPow d.places)

theorem units_eq : d.units k = d.signed (d.coefficient * tenPow k / tenPow d.places) := by
  unfold units numerator signed
  split
  · rw [Int.neg_mul, Int.neg_tdiv, ← Nat.cast_mul]
    rfl
  · rw [← Nat.cast_mul]
    rfl

theorem units_places (h : d.places = k) : d.units k = d.numerator := by
  rw [units, h, Int.mul_tdiv_cancel]
  exact_mod_cast (tenPow_pos k).ne'

theorem signed_inj {m n : Nat} : d.signed m = d.signed n ↔ m = n := by
  unfold signed
  split <;> omega

theorem natAbs_numerator : d.numerator.natAbs = d.coefficient := by
  unfold numerator signed
  split <;> simp

def mostPlaces : Nat := (-Decimal.smallestExponent).toNat

theorem inRange_iff (negative : Bool) (c f : Nat) :
    Decimal.inRange (.finite negative c (-f)) = true ↔
      f ≤ mostPlaces ∧ digitCount c ≤ f + 1000000000000000000 := by
  rw [Decimal.inRange, decide_eq_true_iff]
  unfold mostPlaces Decimal.largestExponent Decimal.smallestExponent
  omega

theorem digitCount_le_of_significant_lt {c f : Nat}
    (h : significant (c * tenPow k) < tenPow (f + 1000000)) : digitCount c ≤ f + 1000000 := by
  by_contra hlong
  have hc : tenPow (f + 1000000) ≤ c := by
    refine (tenPow_le_iff _ c).2 ⟨by omega, Nat.pos_of_ne_zero ?_⟩
    rintro rfl
    exact hlong (le_trans (by decide +kernel) (Nat.le_add_left 1000000 f))
  refine Nat.not_le.2 h (Decimal.tenPow_le_significant (hc.trans ?_))
  exact Nat.le_mul_of_pos_right c (tenPow_pos k)

/-- A numeral is converted unless it has too many places or what it says is too much, and its
product is rounded to its significant digits before the fraction is cut off. -/
theorem units_text_iff (n : Int) :
    Decimal.units k d.text = .ok n ↔
      d.places ≤ mostPlaces ∧
      significant (d.coefficient * tenPow k) < tenPow (d.places + 1000000) ∧
      n = d.signed (significant (d.coefficient * tenPow k) / tenPow d.places) := by
  have hrange := inRange_iff d.negative d.coefficient d.places
  rw [Decimal.units, read?_text, Option.filter_some]
  by_cases hread : Decimal.inRange (.finite d.negative d.coefficient (-d.places)) = true
  · rw [if_pos hread]
    simp only [Decimal.times_truncated]
    split
    · rename_i hover
      refine iff_of_false nofun ?_
      rintro ⟨-, hbound, -⟩
      exact Nat.not_le.2 hbound hover
    · rename_i hbound
      rw [Except.ok.injEq, eq_comm]
      exact ⟨fun h => ⟨(hrange.1 hread).1, Nat.not_le.1 hbound, h⟩, fun h => h.2.2⟩
  · rw [if_neg hread]
    refine iff_of_false nofun ?_
    rintro ⟨hplaces, hbound, -⟩
    have hdigits := digitCount_le_of_significant_lt k hbound
    exact hread (hrange.2 ⟨hplaces, by omega⟩)

/-- The conversion to units of `10 ^ (-k)` loses nothing but the fraction of a unit. -/
structure Kept : Prop where
  readable : d.places ≤ mostPlaces
  bounded : significant (d.coefficient * tenPow k) < tenPow (d.places + 1000000)
  /-- Rounding the product to its significant digits leaves the whole part alone. -/
  same : significant (d.coefficient * tenPow k) / tenPow d.places =
    d.coefficient * tenPow k / tenPow d.places

theorem units_text_exact_iff : Decimal.units k d.text = .ok (d.units k) ↔ d.Kept k := by
  rw [units_text_iff, units_eq, signed_inj, eq_comm (a := d.coefficient * _ / _)]
  exact ⟨fun ⟨h₁, h₂, h₃⟩ => ⟨h₁, h₂, h₃⟩, fun ⟨h₁, h₂, h₃⟩ => ⟨h₁, h₂, h₃⟩⟩

theorem kept_of_short (hshort : Short d.coefficient) (hplaces : d.places ≤ mostPlaces)
    (hbound : d.coefficient * tenPow k < tenPow (d.places + 1000000)) : d.Kept k := by
  have hall := Decimal.significant_eq_self_iff.2 (hshort.mul_tenPow k)
  exact ⟨hplaces, by rwa [hall], by rw [hall]⟩

/-- With a place for each unit, every digit counts. -/
theorem kept_places_iff :
    d.Kept d.places ↔
      d.places ≤ mostPlaces ∧ d.coefficient < tenPow 1000000 ∧ Short d.coefficient := by
  have hpos := tenPow_pos d.places
  have hbound (n : Nat) :
      n * tenPow d.places < tenPow (d.places + 1000000) ↔ n < tenPow 1000000 := by
    rw [Nat.add_comm, tenPow_add]
    exact Nat.mul_lt_mul_right hpos
  constructor
  · rintro ⟨hplaces, hlt, hsame⟩
    rw [Decimal.significant_mul_tenPow, Nat.mul_div_cancel _ hpos,
      Nat.mul_div_cancel _ hpos] at hsame
    rw [Decimal.significant_mul_tenPow, hsame, hbound] at hlt
    exact ⟨hplaces, hlt, Decimal.significant_eq_self_iff.1 hsame⟩
  · rintro ⟨hplaces, hlt, hshort⟩
    exact d.kept_of_short d.places hshort hplaces ((hbound _).2 hlt)

theorem toUnits_text : Scenario.toUnits (.text d.text) k = .ofDecimal (Decimal.units k d.text) := by
  have hm (c : Char) (hc : c ∈ d.chars) : c.toLower ≠ 'm' := by
    refine d.forall_mem_chars (P := fun c => c.toLower ≠ 'm') ?_ ?_ ?_ ?_ hc <;> decide
  have hword : isEverything (.text d.text) = false := by
    rw [isEverything, beq_eq_false_iff_ne]
    intro hmax
    have hchars : d.chars.map Char.toLower = ['m', 'a', 'x'] := by
      have hlist : (String.map Char.toLower d.text).toList = "max".toList :=
        congrArg String.toList hmax
      simpa [text] using hlist
    obtain ⟨c, hc, hlower⟩ := List.mem_map.1 (hchars ▸ List.mem_cons_self : 'm' ∈ d.chars.map _)
    exact hm c hc hlower
  unfold Scenario.toUnits
  rw [hword, if_neg Bool.false_ne_true, if_pos (Int.natCast_nonneg k), Int.toNat_natCast]
  rfl

end PlainNumeral

namespace Scenario

open PlainNumeral

theorem ofDecimal_eq_ok_iff {α : Type} {r : Except Decimal.Failure α} {a : α} :
    Reading.ofDecimal r = .ok a ↔ r = .ok a := by
  cases r <;> simp [Reading.ofDecimal, Except.mapError]

/-- **Exact conversion.** A plain numeral is converted to units, to a ray or to a wad exactly if
rounding its product to the significant digits leaves the whole part alone. Whole units, which can
always be written with a place for each, come back exactly if they have no more than `precision`
significant digits. -/
theorem conversion_exact_iff (d : PlainNumeral) (k : Nat) (n : Int) :
    (toUnits (.text d.text) k = .ok (d.units k) ↔ d.Kept k) ∧
    (Decimal.ray d.text = .ok (d.units 27) ↔ d.Kept 27) ∧
    (Decimal.wad d.text = .ok (d.units 18) ↔ d.Kept 18) ∧
    (d.places = k → d.numerator = n → (toUnits (.text d.text) k = .ok n ↔
      k ≤ mostPlaces ∧ n.natAbs < tenPow 1000000 ∧ Decimal.Short n.natAbs)) ∧
    (writing n k).places = k ∧ (writing n k).numerator = n := by
  have hexact : toUnits (.text d.text) k = .ok (d.units k) ↔ d.Kept k := by
    rw [toUnits_text, ofDecimal_eq_ok_iff, units_text_exact_iff]
  refine ⟨hexact, d.units_text_exact_iff 27, d.units_text_exact_iff 18, ?_, writing_places n k,
    writing_numerator n k⟩
  rintro rfl rfl
  rw [← d.units_places d.places rfl, hexact, kept_places_iff, units_places _ _ rfl,
    natAbs_numerator]

theorem halfToken_exact :
    (writing 10500000 6).text = "10.500000" ∧
      toUnits (.text (writing 10500000 6).text) (6 : Nat) = .ok 10500000 := by
  obtain ⟨-, -, -, hback, -⟩ := conversion_exact_iff (writing 10500000 6) 6 10500000
  rw [hback (by decide) (by decide)]
  exact ⟨by decide, by decide, by decide +kernel, 105, 5, by decide, by decide⟩

/-- The last digit of a supply of 29 digits is rounded. -/
theorem largeSupply_inexact :
    let supply := writing 12345678901123456789012345678 18
    supply.text = "12345678901.123456789012345678" ∧
      supply.units 18 = 12345678901123456789012345678 ∧
      toUnits (.text supply.text) (18 : Nat) = .ok 12345678901123456789012345680 := by
  intro supply
  refine ⟨by decide +kernel, by decide +kernel, ?_⟩
  rw [toUnits_text, ofDecimal_eq_ok_iff, units_text_iff]
  decide +kernel

end Scenario

end MoneyMarket
