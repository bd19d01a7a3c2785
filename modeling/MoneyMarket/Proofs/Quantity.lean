import MoneyMarket.Proofs.FixedPoint
import MoneyMarket.Quantity.Arithmetic
import Mathlib.Data.Rat.Cast.Order
import Mathlib.Tactic.Positivity

/-!
# Exact values of quantities

A quantity that is at most a whole number has an exact value of at most that number, also where it
is not whole itself.
-/

namespace MoneyMarket

namespace Binary64

theorem unitsOfOne_pos : 0 < unitsOfOne := Numeral.twoPow_pos 1074

/-- The value of a number; zero for infinities and what is no number. -/
def value (x : Float) : ℚ :=
  match parts x with
  | .finite negative m e => (signed negative (magnitudeUnits m e) : ℚ) / unitsOfOne
  | _ => 0

theorem signed_whole {units : Nat} (h : units % unitsOfOne = 0) (negative : Bool) :
    signed negative units = signed negative (units / unitsOfOne) * unitsOfOne := by
  have hunits : (units : Int) = (units / unitsOfOne : Nat) * unitsOfOne := by
    exact_mod_cast (Nat.div_mul_cancel (Nat.dvd_of_mod_eq_zero h)).symm
  cases negative with
  | false => exact hunits
  | true => rw [signed, if_pos rfl, hunits, signed, if_pos rfl, Int.neg_mul]

variable {x : Float} {n : Int}

theorem units_le (h : isBelow x n = true ∨ whole? x = some n) {negative : Bool} {m : Nat} {e : Int}
    (hx : parts x = .finite negative m e) :
    signed negative (magnitudeUnits m e) ≤ n * unitsOfOne := by
  simp only [isBelow, whole?, hx, decide_eq_true_eq] at h
  rcases h with hbelow | hwhole
  · exact Int.le_of_lt hbelow
  · split at hwhole
    · rename_i hdvd
      rw [signed_whole hdvd negative, Option.some.inj hwhole]
    · cases hwhole

/-- An infinite number is below a whole one only if it is negative. -/
theorem value_le (h : isBelow x n = true ∨ whole? x = some n) (hn : 0 ≤ n) : value x ≤ n := by
  have hpos : (0 : ℚ) < unitsOfOne := by exact_mod_cast unitsOfOne_pos
  unfold value
  cases hx : parts x
  case notANumber | infinite => exact Int.cast_nonneg hn
  case finite negative m e =>
    rw [div_le_iff₀ hpos]
    exact_mod_cast units_le h hx

theorem isBelow_of_lt {more : Int} (h : isBelow x n = true ∨ whole? x = some n) (hlt : n < more) :
    isBelow x more = true := by
  have hpos : (0 : Int) < unitsOfOne := by exact_mod_cast unitsOfOne_pos
  cases hx : parts x
  case notANumber => simp [isBelow, whole?, hx] at h
  case infinite => simpa [isBelow, whole?, hx] using h
  case finite negative m e =>
    simp only [isBelow, hx, decide_eq_true_eq]
    exact Int.lt_of_le_of_lt (units_le h hx) (Int.mul_lt_mul_of_pos_right hlt hpos)

end Binary64

namespace Quantity

def value : Quantity → ℚ
  | whole n => n
  | real x => Binary64.value x

theorem le_real_iff {x : Float} {n : Int} : (real x).le (whole n) = true ↔
    Binary64.isBelow x n = true ∨ Binary64.whole? x = some n := by
  simp [le, lt, same]

theorem value_le {q : Quantity} {n : Int} (h : q.le (whole n) = true) (hn : 0 ≤ n) :
    q.value ≤ n := by
  cases q with
  | whole m =>
    rw [le_whole, decide_eq_true_eq] at h
    exact Int.cast_le.2 h
  | real x => exact Binary64.value_le (le_real_iff.1 h) hn

theorem le_whole_trans {q : Quantity} {m n : Int} (h : q.le (whole m) = true) (hle : m ≤ n) :
    q.le (whole n) = true := by
  cases q with
  | whole k =>
    rw [le_whole, decide_eq_true_eq] at h ⊢
    omega
  | real x =>
    rw [le_real_iff] at h ⊢
    rcases Int.lt_or_eq_of_le hle with hlt | rfl
    · exact .inl (Binary64.isBelow_of_lt h hlt)
    · exact h

theorem booked_ok_iff {q : Quantity} {n : Int} : q.booked = .ok n ↔ q = whole n := by
  cases q <;> simp [booked]

/-! ## Quotients -/

theorem combine_real {exact : Int → Int → Int} {rounded : Float → Float → Float} {x : Float}
    {b q : Quantity} (h : combine exact rounded (real x) b = .ok q) : ∃ y, q = real y := by
  simp only [combine, bind_ok_iff, pure_ok_iff] at h
  obtain ⟨_, _, _, _, rfl⟩ := h
  exact ⟨_, rfl⟩

theorem combine_real_right {exact : Int → Int → Int} {rounded : Float → Float → Float} {y : Float}
    {a q : Quantity} (h : combine exact rounded a (real y) = .ok q) : ∃ z, q = real z := by
  cases a <;>
  · simp only [combine, bind_ok_iff, pure_ok_iff] at h
    obtain ⟨_, _, _, _, rfl⟩ := h
    exact ⟨_, rfl⟩

/-- A result is whole only for whole operands. -/
theorem combine_whole {exact : Int → Int → Int} {rounded : Float → Float → Float} {a b : Quantity}
    {n : Int} (h : combine exact rounded a b = .ok (whole n)) :
    ∃ i j, a = whole i ∧ b = whole j ∧ n = exact i j := by
  cases a with
  | real x =>
    obtain ⟨_, hreal⟩ := combine_real h
    cases hreal
  | whole i =>
    cases b with
    | real y =>
      obtain ⟨_, hreal⟩ := combine_real_right h
      cases hreal
    | whole j =>
      cases h
      exact ⟨i, j, rfl, rfl, rfl⟩

theorem floorDiv_real_right {y : Float} {a q : Quantity} (h : a.floorDiv (real y) = .ok q) :
    ∃ z, q = real z := by
  cases a <;>
  · simp only [floorDiv, bind_ok_iff, guard_ok_iff, pure_ok_iff] at h
    obtain ⟨_, _, _, _, _, rfl⟩ := h
    exact ⟨_, rfl⟩

def NonNegative (q : Quantity) : Prop := ∀ n, q = whole n → 0 ≤ n

theorem nonNegative_whole {n : Int} : (whole n).NonNegative ↔ 0 ≤ n :=
  ⟨fun h => h n rfl, fun h m hm => by cases hm; exact h⟩

theorem nonNegative_real (x : Float) : (real x).NonNegative := nofun

theorem NonNegative.add {a b q : Quantity} (ha : a.NonNegative) (hb : b.NonNegative)
    (h : a.add b = .ok q) : q.NonNegative := by
  rintro n rfl
  obtain ⟨i, j, rfl, rfl, rfl⟩ := combine_whole h
  exact Int.add_nonneg (ha i rfl) (hb j rfl)

end Quantity

end MoneyMarket
