import MoneyMarket.Interest
import MoneyMarket.Proofs.Progress
import Mathlib.Tactic.Linarith
import Mathlib.Tactic.Ring

/-!
# Fixed-point results

When an operation of fixed-point arithmetic gives a result, and how far a rounded result is from
the exact one.
-/

namespace MoneyMarket

namespace FixedPoint

/-! ## Results -/

theorem ray_pos : 0 < ray := by decide

theorem nonneg_of_ray_le {a : Int} (h : ray ≤ a) : 0 ≤ a := Int.le_trans (Int.le_of_lt ray_pos) h

theorem requireNonNegative_ok_iff {v : Int} {u : Unit} :
    requireNonNegative v = .ok u ↔ 0 ≤ v := by
  unfold requireNonNegative
  split
  · rename_i h
    exact ⟨nofun, fun h' => absurd h (by omega)⟩
  · rename_i h
    exact ⟨fun _ => by omega, fun _ => rfl⟩

theorem mulChecked_ok_iff {unit half a b c : Int} :
    mulChecked unit half a b = .ok c ↔ 0 ≤ a ∧ 0 ≤ b ∧ mulRound unit half a b = c := by
  simp only [mulChecked, bind_ok_iff, requireNonNegative_ok_iff, pure_ok_iff, exists_const]

theorem divChecked_ok_iff {scale : Scale} {unit a b c : Int} :
    divChecked scale unit a b = .ok c ↔ 0 ≤ a ∧ 0 < b ∧ divRound unit a b = c := by
  simp only [divChecked, bind_ok_iff, requireNonNegative_ok_iff, exists_const]
  split
  · rename_i h
    subst h
    constructor
    · rintro ⟨_, _, h⟩
      cases h
    · rintro ⟨_, h, _⟩
      exact absurd h (by decide)
  · rename_i h
    rw [pure_ok_iff]
    constructor
    · rintro ⟨ha, hb, hc⟩
      exact ⟨ha, by omega, hc⟩
    · rintro ⟨ha, hb, hc⟩
      exact ⟨ha, by omega, hc⟩

theorem rayMul_ok_iff {a b c : Int} :
    rayMul a b = .ok c ↔ 0 ≤ a ∧ 0 ≤ b ∧ mulRound ray halfRay a b = c := mulChecked_ok_iff

theorem rayDiv_ok_iff {a b c : Int} :
    rayDiv a b = .ok c ↔ 0 ≤ a ∧ 0 < b ∧ divRound ray a b = c := divChecked_ok_iff

theorem percentMul_ok_iff {a b c : Int} :
    percentMul a b = .ok c ↔ 0 ≤ a ∧ 0 ≤ b ∧ mulRound whole halfWhole a b = c := mulChecked_ok_iff

theorem percentDiv_ok_iff {a b c : Int} :
    percentDiv a b = .ok c ↔ 0 ≤ a ∧ 0 < b ∧ divRound whole a b = c := divChecked_ok_iff

theorem wadDiv_ok_iff {a b c : Int} :
    wadDiv a b = .ok c ↔ 0 ≤ a ∧ 0 < b ∧ divRound wad a b = c := divChecked_ok_iff

theorem wadToRay_ok_iff {a c : Int} : wadToRay a = .ok c ↔ 0 ≤ a ∧ a * raysPerWad = c := by
  simp only [wadToRay, bind_ok_iff, requireNonNegative_ok_iff, pure_ok_iff, exists_const]

/-! ## Rounding -/

theorem mulRound_nonneg {unit half a b : Int} (hu : 0 < unit) (hh : 0 ≤ half) (ha : 0 ≤ a)
    (hb : 0 ≤ b) : 0 ≤ mulRound unit half a b :=
  Int.ediv_nonneg (Int.add_nonneg (Int.mul_nonneg ha hb) hh) (Int.le_of_lt hu)

theorem divRound_nonneg {unit a b : Int} (hu : 0 ≤ unit) (ha : 0 ≤ a) (hb : 0 ≤ b) :
    0 ≤ divRound unit a b :=
  Int.ediv_nonneg (Int.add_nonneg (Int.mul_nonneg ha hu) (by omega)) hb

theorem rayRound_nonneg {a b : Int} (ha : 0 ≤ a) (hb : 0 ≤ b) : 0 ≤ mulRound ray halfRay a b :=
  mulRound_nonneg (by decide) (by decide) ha hb

theorem percentRound_nonneg {a b : Int} (ha : 0 ≤ a) (hb : 0 ≤ b) :
    0 ≤ mulRound whole halfWhole a b := mulRound_nonneg (by decide) (by decide) ha hb

theorem rayMul_total {a b : Int} (ha : 0 ≤ a) (hb : 0 ≤ b) : ∃ c, rayMul a b = .ok c ∧ 0 ≤ c :=
  ⟨_, mulChecked_ok _ _ ha hb, rayRound_nonneg ha hb⟩

theorem percentMul_total {a b : Int} (ha : 0 ≤ a) (hb : 0 ≤ b) :
    ∃ c, percentMul a b = .ok c ∧ 0 ≤ c :=
  ⟨_, mulChecked_ok _ _ ha hb, percentRound_nonneg ha hb⟩

theorem rayDiv_total {a b : Int} (ha : 0 ≤ a) (hb : 0 < b) : ∃ c, rayDiv a b = .ok c ∧ 0 ≤ c :=
  ⟨_, divChecked_ok _ _ ha hb, divRound_nonneg (by decide) ha (Int.le_of_lt hb)⟩

theorem percentDiv_answers {faults : Fault → Prop} (hrefused : ∀ cause, faults (.refused cause))
    {a b : Int} (ha : 0 ≤ a) (hb : 0 ≤ b) : Answers faults (fun c => 0 ≤ c) (percentDiv a b) := by
  by_cases hzero : b = 0
  · subst hzero
    rw [percentDiv, divChecked, requireNonNegative_ok ha, requireNonNegative_ok hb]
    exact hrefused _
  · rw [percentDiv, divChecked_ok .percent whole ha (show 0 < b by omega)]
    exact divRound_nonneg (by decide) ha hb

theorem rayMul_nonneg {a b c : Int} (h : rayMul a b = .ok c) : 0 ≤ c := by
  obtain ⟨ha, hb, rfl⟩ := rayMul_ok_iff.1 h
  exact rayRound_nonneg ha hb

theorem percentMul_nonneg {a b c : Int} (h : percentMul a b = .ok c) : 0 ≤ c := by
  obtain ⟨ha, hb, rfl⟩ := percentMul_ok_iff.1 h
  exact percentRound_nonneg ha hb

theorem rayDiv_nonneg {a b c : Int} (h : rayDiv a b = .ok c) : 0 ≤ c := by
  obtain ⟨ha, hb, rfl⟩ := rayDiv_ok_iff.1 h
  exact divRound_nonneg (by decide) ha (Int.le_of_lt hb)

end FixedPoint

end MoneyMarket
