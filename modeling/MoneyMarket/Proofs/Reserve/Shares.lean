import MoneyMarket.Proofs.FixedPoint.Display
import MoneyMarket.Proofs.Reserve.Effect

/-!
# Amounts and stored shares

An amount goes into a position, or out of it, as a share that is rounded to the nearest. At an index
of one nothing is rounded. At a higher one each share stands for its amount up to half a unit of the
index, in favour of the account or not, and what is displayed is rounded once more.
-/

namespace MoneyMarket.Reserve

open MoneyMarket.FixedPoint

variable {index stored amount entered left before after n moved change x : Int}

/-- A stored amount has changed by what `n` amounts, `moved` in sum, stand for. -/
structure Tracks (index n moved change : Int) : Prop where
  below : 2 * (change * index) ≤ 2 * (moved * ray) + n * index
  above : 2 * (moved * ray) ≤ 2 * (change * index) + n * index
  exact : index = ray → change = moved

/-- Two amounts differ by less than one and half a unit of the index for each of `n`, and at an index
of one not at all. -/
def Close (index n x y : Int) : Prop :=
  2 * ray * |x - y| < n * index + 2 * ray ∧ (index = ray → x = y)

theorem Close.refl (index x : Int) : Close index 0 x x := by
  refine ⟨?_, fun _ => rfl⟩
  rw [Int.sub_self, abs_zero]
  have := ray_pos
  omega

theorem Tracks.add {n' moved' change' : Int} (h : Tracks index n moved change)
    (h' : Tracks index n' moved' change') :
    Tracks index (n + n') (moved + moved') (change + change') := by
  obtain ⟨hbelow, habove, hexact⟩ := h
  obtain ⟨hbelow', habove', hexact'⟩ := h'
  refine ⟨?_, ?_, fun hone => by rw [hexact hone, hexact' hone]⟩
  all_goals
    simp only [Int.add_mul]
    omega

theorem Tracks.neg (h : Tracks index n moved change) : Tracks index n (-moved) (-change) := by
  obtain ⟨hbelow, habove, hexact⟩ := h
  refine ⟨?_, ?_, fun hone => by rw [hexact hone]⟩
  all_goals
    simp only [Int.neg_mul]
    omega

theorem tracks_of_quotient (hindex : 0 < index) (h : rayDiv amount index = .ok x) :
    Tracks index 1 amount x := by
  obtain ⟨_, _, rfl⟩ := rayDiv_ok_iff.1 h
  obtain ⟨hbelow, habove⟩ := rayQuotient_bounds amount hindex
  refine ⟨by omega, by omega, ?_⟩
  rintro rfl
  exact rayQuotient_one amount

/-! ## The cap -/

theorem scaledShare_of_less (hindex : 0 < index) (hstored : 0 ≤ stored)
    (hless : amount < mulRound ray halfRay stored index) :
    scaledShare stored index amount = rayDiv amount index := by
  have hdisplayed : rayMul stored index = .ok (mulRound ray halfRay stored index) :=
    mulChecked_ok _ _ hstored (Int.le_of_lt hindex)
  rw [scaledShare, hdisplayed, ok_bind, if_neg (Int.not_le.2 hless)]
  cases hshare : rayDiv amount index with
  | error f => rfl
  | ok share =>
    obtain ⟨_, _, rfl⟩ := rayDiv_ok_iff.1 hshare
    rw [ok_bind, min_eq_left (quotient_le_stored hindex hless)]
    rfl

theorem scaledShare_of_all (hle : mulRound ray halfRay stored index ≤ amount)
    (h : scaledShare stored index amount = .ok x) : x = stored := by
  simp only [scaledShare, bind_ok_iff, rayMul_ok_iff] at h
  obtain ⟨_, ⟨_, _, rfl⟩, h⟩ := h
  rw [if_pos hle] at h
  exact (pure_ok_iff.1 h).symm

/-- Up to all that is displayed, just the share of an amount is taken: the share of all of it is all
that is stored. -/
theorem scaledShare_of_le (hindex : ray ≤ index) (hstored : 0 ≤ stored)
    (hle : amount ≤ mulRound ray halfRay stored index) :
    scaledShare stored index amount = rayDiv amount index := by
  have hpos := Int.lt_of_lt_of_le ray_pos hindex
  rcases Int.lt_or_eq_of_le hle with hless | rfl
  · exact scaledShare_of_less hpos hstored hless
  · have hdisplayed : rayMul stored index = .ok (mulRound ray halfRay stored index) :=
      mulChecked_ok _ _ hstored (Int.le_of_lt hpos)
    rw [scaledShare, hdisplayed, ok_bind, if_pos (Int.le_refl _), rayDiv_rayRound hindex hstored]
    rfl

theorem tracks_of_share (hindex : ray ≤ index) (h : scaledShare stored index amount = .ok x)
    (hle : amount ≤ mulRound ray halfRay stored index) : Tracks index 1 amount x := by
  have hbounds := scaledShare_bounds h
  rw [scaledShare_of_le hindex (by omega) hle] at h
  exact tracks_of_quotient (Int.lt_of_lt_of_le ray_pos hindex) h

/-- From a position that displays more than an amount, just the share of the amount is taken. -/
structure Uncapped (r : Reserve) (pos : Position) : Prop where
  supply : ∀ amount, amount < mulRound ray halfRay pos.scaledBalance r.liquidityIndex →
    r.burnSupply pos amount = do
      let scaled ← rayDiv amount r.liquidityIndex
      return ({ r with scaledTotalSupply := max (r.scaledTotalSupply - scaled) 0 },
        { pos with scaledBalance := pos.scaledBalance - scaled })
  debt : ∀ amount, amount < mulRound ray halfRay pos.scaledVariableDebt r.variableBorrowIndex →
    r.burnVariableDebt pos amount = do
      let scaled ← rayDiv amount r.variableBorrowIndex
      return ({ r with scaledVariableDebt := max (r.scaledVariableDebt - scaled) 0 },
        { pos with scaledVariableDebt := pos.scaledVariableDebt - scaled })

theorem uncapped {r : Reserve} {pos : Position} (hincome : 0 < r.liquidityIndex)
    (hdebt : 0 < r.variableBorrowIndex) (hheld : 0 ≤ pos.scaledBalance)
    (howed : 0 ≤ pos.scaledVariableDebt) : r.Uncapped pos := by
  constructor
  · intro amount hless
    rw [burnSupply, scaledShare_of_less hincome hheld hless]
  · intro amount hless
    rw [burnVariableDebt, scaledShare_of_less hdebt howed hless]

/-! ## What is displayed -/

theorem Tracks.shown (h : Tracks index n moved (after - before)) :
    Close index n (mulRound ray halfRay after index - mulRound ray halfRay before index) moved := by
  obtain ⟨hbelow, habove, hexact⟩ := h
  obtain ⟨hafter, hafter'⟩ := rayRound_bounds after index
  obtain ⟨hbefore, hbefore'⟩ := rayRound_bounds before index
  rw [Int.sub_mul] at hbelow habove
  constructor
  · have hhalf : 2 * halfRay = ray := rfl
    generalize mulRound ray halfRay after index = final at hafter hafter' ⊢
    generalize mulRound ray halfRay before index = initial at hbefore hbefore' ⊢
    rcases abs_cases (final - initial - moved) with ⟨h, _⟩ | ⟨h, _⟩ <;> rw [h] <;> linarith
  · rintro rfl
    rw [rayRound_by_one, rayRound_by_one]
    exact hexact rfl

theorem Tracks.close (h : Tracks index n (entered - left) (after - before)) :
    Close index n (left + mulRound ray halfRay after index)
      (entered + mulRound ray halfRay before index) := by
  obtain ⟨hnear, hexact⟩ := h.shown
  constructor
  · rwa [show ∀ l f e i : Int, l + f - (e + i) = f - i - (e - l) by omega]
  · intro hone
    have := hexact hone
    omega

/-! ## Into a stored amount and out of it -/

/-- An amount is put into what is stored as its share at an index, or is taken out, which counts as
less than nothing, if that much is displayed. -/
inductive Shifts (index before : Int) : Int → Int → Prop
  | put {amount x : Int} (h : rayDiv amount index = .ok x) : Shifts index before amount (before + x)
  | take {amount x : Int} (hle : amount ≤ mulRound ray halfRay before index)
      (h : scaledShare before index amount = .ok x) : Shifts index before (-amount) (before - x)

theorem Shifts.tracks (h : Shifts index before moved after) (hindex : ray ≤ index) :
    Tracks index 1 moved (after - before) := by
  cases h with
  | put hx =>
    rw [add_sub_cancel_left]
    exact tracks_of_quotient (Int.lt_of_lt_of_le ray_pos hindex) hx
  | take hle hx =>
    rw [sub_sub_cancel_left]
    exact (tracks_of_share hindex hx hle).neg

theorem Shifts.nonneg (h : Shifts index before moved after) (hbefore : 0 ≤ before) : 0 ≤ after := by
  cases h with
  | put hx => exact Int.add_nonneg hbefore (rayDiv_nonneg hx)
  | take _ hx => exact Int.sub_nonneg.2 (scaledShare_bounds hx).2

theorem Shifts.emptied (h : Shifts index before moved after)
    (hsome : 0 < mulRound ray halfRay before index)
    (hall : moved = -mulRound ray halfRay before index) : after = 0 := by
  cases h with
  | put hx =>
    have hnonneg := (rayDiv_ok_iff.1 hx).1
    omega
  | take _ hx =>
    rw [scaledShare_of_all (by omega) hx, Int.sub_self]

end MoneyMarket.Reserve
