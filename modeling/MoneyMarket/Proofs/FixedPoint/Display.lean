import MoneyMarket.Proofs.Rounding

/-!
# Stored amounts and what they display

A stored amount displays its product with an index, and an amount is stored as its quotient by the
index; both are rounded. At an index of one or more every stored amount can be read back from what it
displays, so that what is displayed can be taken out in full. At a lower index some amounts display
the same.
-/

namespace MoneyMarket.FixedPoint

variable {stored index amount : Int}

/-! ## From the display back to what is stored -/

theorem rayQuotient_one (amount : Int) : divRound ray amount ray = amount := by
  unfold divRound ray
  omega

theorem rayQuotient_rayRound (hindex : ray ≤ index) (stored : Int) :
    divRound ray (mulRound ray halfRay stored index) index = stored := by
  -- A display is off by half a unit at most. This is less than the half of an index above one, and
  -- at an index of one nothing is rounded.
  rcases Int.lt_or_eq_of_le hindex with hmore | rfl
  · have hpos : 0 < index := Int.lt_trans ray_pos hmore
    have hhalf : 2 * halfRay = ray := rfl
    obtain ⟨habove, hbelow⟩ := rayRound_bounds stored index
    apply Int.le_antisymm
    · rw [divRound_le_iff ray hpos]
      linarith
    · rw [le_divRound_iff ray hpos]
      linarith
  · rw [rayRound_by_one, rayQuotient_one]

-- At the least index above one, a display that is off by half a unit.
example : mulRound ray halfRay halfRay (ray + 1) = halfRay + 1 ∧
    divRound ray (halfRay + 1) (ray + 1) = halfRay := by decide

theorem rayDiv_rayRound (hindex : ray ≤ index) (hstored : 0 ≤ stored) :
    rayDiv (mulRound ray halfRay stored index) index = .ok stored := by
  have hpos : 0 < index := Int.lt_of_lt_of_le ray_pos hindex
  rw [rayDiv, divChecked_ok _ _ (rayRound_nonneg hstored (Int.le_of_lt hpos)) hpos,
    rayQuotient_rayRound hindex]

theorem quotient_le_stored (hindex : 0 < index)
    (hless : amount < mulRound ray halfRay stored index) : divRound ray amount index ≤ stored := by
  obtain ⟨hquotient, _⟩ := rayQuotient_bounds amount hindex
  obtain ⟨hdisplayed, _⟩ := rayRound_bounds stored index
  have hhalf : 2 * halfRay = ray := rfl
  by_contra hmore
  have hover : (stored + 1) * index ≤ divRound ray amount index * index :=
    Int.mul_le_mul_of_nonneg_right (Int.not_le.1 hmore) (Int.le_of_lt hindex)
  have hunit : amount * ray ≤ (mulRound ray halfRay stored index - 1) * ray :=
    Int.mul_le_mul_of_nonneg_right (by omega) (Int.le_of_lt ray_pos)
  have := ray_pos
  linarith

/-! ## Lower indices -/

theorem ray_le_of_distinct (hindex : 0 ≤ index)
    (hdistinct : ∀ a b, 0 ≤ a → 0 ≤ b →
      mulRound ray halfRay a index = mulRound ray halfRay b index → a = b) : ray ≤ index := by
  -- Displays grow with the amounts, so that none is less than its amount. One displays the index.
  have hgrows (n : Nat) : (n : Int) ≤ mulRound ray halfRay n index := by
    induction n with
    | zero => exact rayRound_nonneg (Int.le_refl 0) hindex
    | succ n ih =>
      have hle : mulRound ray halfRay n index ≤ mulRound ray halfRay (n + 1) index :=
        rayRound_mono_both (Int.natCast_nonneg n) hindex (by omega) (Int.le_refl index)
      have hne : mulRound ray halfRay n index ≠ mulRound ray halfRay (n + 1) index := by
        intro hsame
        have := hdistinct n (n + 1) (by omega) (by omega) hsame
        omega
      push_cast
      omega
  have hone := hgrows ray.toNat
  rwa [Int.toNat_of_nonneg (Int.le_of_lt ray_pos), rayRound_one] at hone

theorem rayQuotient_rayRound_iff (hindex : 0 < index) :
    (∀ stored, 0 ≤ stored → divRound ray (mulRound ray halfRay stored index) index = stored) ↔
      ray ≤ index := by
  constructor
  · intro hback
    refine ray_le_of_distinct (Int.le_of_lt hindex) ?_
    intro a b ha hb hsame
    rw [← hback a ha, ← hback b hb, hsame]
  · intro hone stored _
    exact rayQuotient_rayRound hone stored

/-! ## From an amount to its display -/

/-- An amount is rounded twice, to a share, where a half is half a unit of the index, and back to an
amount. -/
theorem rayRound_rayQuotient_near (amount : Int) (hindex : 0 < index) :
    |(mulRound ray halfRay (divRound ray amount index) index : ℚ) - amount| ≤
      index / (2 * ray) + 1 / 2 := by
  have hunit := ofRay_pos hindex
  have hshare := scaled_near hunit.le (rayQuotient_near amount hindex)
  rw [mul_div_cancel₀ _ hunit.ne', mul_comm] at hshare
  have hshown := rayRound_near (divRound ray amount index) index
  have hhalf : ofRay index * (1 / 2) = index / (2 * ray) := by
    rw [ofRay, div_mul_div_comm, mul_one, mul_comm (ray : ℚ)]
  calc |(mulRound ray halfRay (divRound ray amount index) index : ℚ) - amount|
      ≤ |(mulRound ray halfRay (divRound ray amount index) index : ℚ) -
            divRound ray amount index * ofRay index| +
          |divRound ray amount index * ofRay index - amount| := abs_sub_le _ _ _
    _ ≤ 1 / 2 + ofRay index * (1 / 2) := add_le_add hshown hshare
    _ = index / (2 * ray) + 1 / 2 := by rw [hhalf, add_comm]

/-! ## Display -/

/-- **Display.** At indices of one or more, and at no others, every stored amount can be read back
from what it displays, the share of less is no more than what is stored, and just the amounts that
are not negative can be stored; each then displays as itself, give or take half a unit of the index
and a half. -/
theorem display_faithful_iff (index : Int) :
    ray ≤ index ↔
      (∀ stored, 0 ≤ stored → ∃ shown,
        rayMul stored index = .ok shown ∧ rayDiv shown index = .ok stored ∧
        ∀ amount, 0 ≤ amount → amount < shown →
          ∃ share, rayDiv amount index = .ok share ∧ share ≤ stored) ∧
      ∀ amount, 0 ≤ amount ↔ ∃ share shown,
        rayDiv amount index = .ok share ∧ rayMul share index = .ok shown ∧
        |(shown : ℚ) - amount| ≤ index / (2 * ray) + 1 / 2 := by
  constructor
  · intro hindex
    have hpos : 0 < index := Int.lt_of_lt_of_le ray_pos hindex
    have hnonneg : 0 ≤ index := Int.le_of_lt hpos
    constructor
    · intro stored hstored
      refine ⟨_, mulChecked_ok _ _ hstored hnonneg, rayDiv_rayRound hindex hstored, ?_⟩
      intro amount hamount hless
      exact ⟨_, divChecked_ok _ _ hamount hpos, quotient_le_stored hpos hless⟩
    · intro amount
      constructor
      · intro hamount
        have hshare : 0 ≤ divRound ray amount index :=
          divRound_nonneg (Int.le_of_lt ray_pos) hamount hnonneg
        exact ⟨_, _, divChecked_ok _ _ hamount hpos, mulChecked_ok _ _ hshare hnonneg,
          rayRound_rayQuotient_near amount hpos⟩
      · rintro ⟨_, _, hshare, _⟩
        exact (rayDiv_ok_iff.1 hshare).1
  · rintro ⟨hback, _⟩
    have hpos : 0 < index := by
      obtain ⟨_, _, hquotient, _⟩ := hback 0 (Int.le_refl 0)
      exact (rayDiv_ok_iff.1 hquotient).2.1
    rw [← rayQuotient_rayRound_iff hpos]
    intro stored hstored
    obtain ⟨_, hshown, hquotient, _⟩ := hback stored hstored
    obtain ⟨_, _, rfl⟩ := rayMul_ok_iff.1 hshown
    exact (rayDiv_ok_iff.1 hquotient).2.2

end MoneyMarket.FixedPoint
