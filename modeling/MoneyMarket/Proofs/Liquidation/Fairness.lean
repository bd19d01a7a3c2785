import MoneyMarket.Proofs.Liquidation

/-!
# Fair seizures

A seizure trades debt for collateral at the stored prices, with the bonus on top. Where the collateral
suffices its amount is computed from the debt; where it does not, the debt is computed back from the
collateral, with other roundings. Either way what is taken and what is paid for it agree, up to about
one unit of each token.
-/

namespace MoneyMarket

open MoneyMarket.FixedPoint

namespace SeizureTerms

variable {t : SeizureTerms} {cover available seized repaid : Int}

/-! ## Values

A unit of either token is worth its price over as many units as make a whole token. Both values are
taken times the units of both tokens, which makes them whole. -/

def debtUnit (t : SeizureTerms) : Int := t.debtPrice * Numeral.tenPow t.collateralDecimals.toNat

def collateralUnit (t : SeizureTerms) : Int :=
  t.collateralPrice * Numeral.tenPow t.debtDecimals.toNat

/-- Neither side of a trade is off by much. -/
structure Fair (t : SeizureTerms) (seized repaid : Int) : Prop where
  /-- What is taken is worth no more than what is paid, with the bonus, and about a unit of debt. -/
  borrower : 10000 * ((t.collateralUnit : ℚ) * seized) ≤
    t.debtUnit * (t.bonus * repaid + t.bonus / 2 + 10000) + 5000
  /-- What is paid is worth, with the bonus, no more than what is taken, one unit of collateral, and
  half a unit of debt with the bonus. -/
  liquidator : (t.debtUnit : ℚ) * (t.bonus * repaid) ≤
    10000 * (t.collateralUnit * (seized + 1)) + t.debtUnit * t.bonus / 2 + 5000

theorem debtUnit_pos (ht : t.Usable) : 0 < t.debtUnit :=
  Int.mul_pos ht.debtPrice (units_pos t.collateralDecimals)

theorem collateralUnit_pos (ht : t.Usable) : 0 < t.collateralUnit :=
  Int.mul_pos ht.collateralPrice (units_pos t.debtDecimals)

/-! ## Forwards -/

theorem wanted_eq (t : SeizureTerms) (cover : Int) : t.wanted cover =
    mulRound whole halfWhole (t.debtUnit * cover) t.bonus / t.collateralUnit := by
  rw [wanted, debtUnit, collateralUnit, Int.mul_right_comm]

theorem wanted_of_no_bonus (hbonus : t.bonus = 0) (cover : Int) : t.wanted cover = 0 := by
  have hnothing : mulRound whole halfWhole (t.debtUnit * cover) 0 = 0 := by
    rw [mulRound, Int.mul_zero]
    decide
  rw [wanted_eq, hbonus, hnothing, Int.zero_ediv]

theorem wanted_bounds (ht : t.Usable) (cover : Int) :
    10000 * ((t.collateralUnit : ℚ) * t.wanted cover) ≤ t.debtUnit * (t.bonus * cover) + 5000 ∧
      (t.debtUnit : ℚ) * (t.bonus * cover) ≤
        10000 * (t.collateralUnit * (t.wanted cover + 1)) + 5000 := by
  have hunit := collateralUnit_pos ht
  have hpos : (0 : ℚ) < t.collateralUnit := by exact_mod_cast hunit
  have hround := percentRound_le (t.debtUnit * cover) t.bonus
  have hround' := lt_percentRound (t.debtUnit * cover) t.bonus
  rw [wanted_eq]
  generalize mulRound whole halfWhole (t.debtUnit * cover) t.bonus = value at hround hround' ⊢
  have hfloor := (le_div_iff₀ hpos).1 (cast_ediv_le hunit value)
  have hfloor' := (div_lt_iff₀ hpos).1 (lt_cast_ediv_add_one hunit value)
  push_cast [cast_whole] at hround hround'
  constructor <;> linarith

theorem fair_wanted (ht : t.Usable) (hbonus : 0 ≤ t.bonus) (cover : Int) :
    t.Fair (t.wanted cover) cover := by
  obtain ⟨hbelow, habove⟩ := wanted_bounds ht cover
  have hdebt : (0 : ℚ) < t.debtUnit := by exact_mod_cast debtUnit_pos ht
  have hbonus' : (0 : ℚ) ≤ t.bonus := by exact_mod_cast hbonus
  have hslack : (0 : ℚ) ≤ t.debtUnit * t.bonus := by positivity
  constructor <;> linarith

/-! ## Backwards -/

theorem worth_eq (t : SeizureTerms) (available : Int) :
    t.worth available = t.collateralUnit * available / t.debtUnit := by
  rw [worth, debtUnit, collateralUnit, Int.mul_right_comm]

theorem repays_bounds (ht : t.Usable) (hbonus : 0 < t.bonus) (available : Int) :
    10000 * ((t.collateralUnit : ℚ) * available) ≤
        t.debtUnit * (t.bonus * t.repays available + t.bonus / 2 + 10000) ∧
      (t.debtUnit : ℚ) * (t.bonus * t.repays available) ≤
        10000 * (t.collateralUnit * available) + t.debtUnit * t.bonus / 2 := by
  have hunit := debtUnit_pos ht
  have hpos : (0 : ℚ) < t.debtUnit := by exact_mod_cast hunit
  have habove := divRound_mul_le whole hbonus (t.worth available)
  have hbelow : (2 * (t.worth available * whole) : ℚ) < (2 * t.repays available + 1) * t.bonus := by
    exact_mod_cast (divRound_le_iff whole hbonus).1 (Int.le_refl (t.repays available))
  rw [← repays] at habove
  generalize t.repays available = n at habove hbelow ⊢
  rw [worth_eq, cast_whole] at habove hbelow
  have hfloor := (le_div_iff₀ hpos).1 (cast_ediv_le hunit (t.collateralUnit * available))
  have hfloor' := (div_lt_iff₀ hpos).1 (lt_cast_ediv_add_one hunit (t.collateralUnit * available))
  generalize t.collateralUnit * available / t.debtUnit = worth at habove hbelow hfloor hfloor'
  have habove' := mul_le_mul_of_nonneg_left habove hpos.le
  have hbelow' := mul_le_mul_of_nonneg_left hbelow.le hpos.le
  push_cast at hfloor hfloor'
  constructor <;> linarith

theorem fair_repays (ht : t.Usable) (hbonus : 0 < t.bonus) (hshort : available ≤ t.wanted cover) :
    t.Fair available (min (t.repays available) cover) := by
  obtain ⟨hbelow, habove⟩ := repays_bounds ht hbonus available
  have hdebt : (0 : ℚ) < t.debtUnit := by exact_mod_cast debtUnit_pos ht
  have hcollateral : (0 : ℚ) < t.collateralUnit := by exact_mod_cast collateralUnit_pos ht
  have hbonus' : (0 : ℚ) < t.bonus := by exact_mod_cast hbonus
  have hslack : (0 : ℚ) ≤ t.debtUnit * t.bonus := by positivity
  constructor
  · rcases Int.le_total (t.repays available) cover with hle | hle
    · rw [Int.min_eq_left hle]
      linarith
    · -- the debt is repaid as a whole, and is worth no less than all that was wanted for it
      rw [Int.min_eq_right hle]
      have hwanted := (wanted_bounds ht cover).1
      have hless : (t.collateralUnit : ℚ) * available ≤ t.collateralUnit * t.wanted cover :=
        mul_le_mul_of_nonneg_left (by exact_mod_cast hshort) hcollateral.le
      linarith
  · have hcut : ((min (t.repays available) cover : Int) : ℚ) ≤ t.repays available := by
      exact_mod_cast Int.min_le_left _ _
    have hpaid := mul_le_mul_of_nonneg_left (mul_le_mul_of_nonneg_left hcut hbonus'.le) hdebt.le
    linarith

/-! ## Seizures -/

/-- What is seized and what is repaid: all that is wanted for all of the debt, or all that is
available for the part of the debt that it repays. The latter never divides by a bonus of zero. -/
theorem seize_eq (ht : t.Usable) (hbonus : 0 ≤ t.bonus) (hcover : 0 ≤ cover)
    (havailable : 0 ≤ available) :
    t.wanted cover ≤ available ∧
        t.seize cover (.whole available) = .ok (.whole (t.wanted cover), .whole cover) ∨
      available < t.wanted cover ∧ 0 < t.bonus ∧ t.seize cover (.whole available) =
        .ok (.whole available, .whole (min (t.repays available) cover)) := by
  unfold seize
  rw [(collateralFor_eq ht hbonus hcover).1, ok_bind, Quantity.le_whole]
  rcases Int.lt_or_le available (t.wanted cover) with hshort | hfits
  · right
    have hpos : 0 < t.bonus := by
      by_contra hnone
      rw [wanted_of_no_bonus (by omega)] at hshort
      omega
    have hrepays : t.debtFor (.whole available) = .ok (.whole (t.repays available)) := by
      rw [debtFor_eq ht, percentDiv, divChecked_ok _ _ (worth_nonneg ht havailable) hpos]
      rfl
    rw [decide_eq_false (Int.not_le.2 hshort), hrepays, ok_bind, Quantity.least_whole]
    exact ⟨hshort, hpos, rfl⟩
  · left
    rw [decide_eq_true hfits]
    exact ⟨hfits, rfl⟩

/-- **A seizure is fair.** At any prices and with any bonus a seizure comes to whole amounts, no more
than there is on either side. It takes all that is available or repays all that is to be covered, and
what is taken and what is repaid agree in value up to roundings. -/
theorem seizure_fair {prices : PriceBoard} {collateralAsset debtAsset : Name} (ht : t.Usable)
    (hcollateral : prices.price collateralAsset = t.collateralPrice)
    (hdebt : prices.price debtAsset = t.debtPrice) (hbonus : 0 ≤ t.bonus) (hcover : 0 ≤ cover)
    (havailable : 0 ≤ available) : ∃ seized repaid,
      collateralToSeize prices collateralAsset t.collateralDecimals debtAsset t.debtDecimals cover
        t.bonus (.whole available) = .ok (.whole seized, .whole repaid) ∧
      (0 ≤ seized ∧ seized ≤ available) ∧ (0 ≤ repaid ∧ repaid ≤ cover) ∧
      (seized = available ∨ repaid = cover) ∧ t.Fair seized repaid := by
  have hterms : collateralToSeize prices collateralAsset t.collateralDecimals debtAsset t.debtDecimals
      cover t.bonus (.whole available) = t.seize cover (.whole available) := by
    unfold collateralToSeize
    rw [PriceBoard.requirePrice_eq_ok.2 ⟨hcollateral, ht.collateralPrice⟩, ok_bind,
      PriceBoard.requirePrice_eq_ok.2 ⟨hdebt, ht.debtPrice⟩, ok_bind]
  rw [hterms]
  rcases seize_eq ht hbonus hcover havailable with ⟨hfits, hseize⟩ | ⟨hshort, hpos, hseize⟩
  · exact ⟨_, _, hseize, ⟨(collateralFor_eq ht hbonus hcover).2, hfits⟩, ⟨hcover, Int.le_refl _⟩,
      .inr rfl, fair_wanted ht hbonus cover⟩
  · have hrepays : 0 ≤ t.repays available :=
      divRound_nonneg (by decide) (worth_nonneg ht havailable) hbonus
    exact ⟨_, _, hseize, ⟨havailable, Int.le_refl _⟩, ⟨by omega, by omega⟩, .inl rfl,
      fair_repays ht hpos (Int.le_of_lt hshort)⟩

def fineForCoarse : SeizureTerms where
  collateralPrice := 500000000000000
  collateralDecimals := 18
  debtPrice := 500000000000000
  debtDecimals := 6
  bonus := 10500

/-- All that is available is taken: it is worth one and a half units of the debt. -/
theorem seizure_of_dust : ∃ seized repaid,
    collateralToSeize ⟨.ofList [(.text "DAI", 500000000000000), (.text "USDC", 500000000000000)]⟩
      (.text "DAI") 18 (.text "USDC") 6 15000000000 10500 (.whole 1500000000000) =
        .ok (.whole seized, .whole repaid) ∧
    (0 ≤ seized ∧ seized ≤ 1500000000000) ∧ (0 ≤ repaid ∧ repaid ≤ 15000000000) ∧
    (seized = 1500000000000 ∨ repaid = 15000000000) ∧ fineForCoarse.Fair seized repaid :=
  have usable : fineForCoarse.Usable := ⟨by decide, by decide, by decide, by decide⟩
  seizure_fair usable rfl rfl (by decide) (by decide) (by decide)

end SeizureTerms

end MoneyMarket
