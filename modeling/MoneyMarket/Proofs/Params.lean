import MoneyMarket.Params.Environment
import MoneyMarket.Proofs.Progress

/-!
# Parameters from a malformed environment

Overrides are read one after the other, and the first that is malformed ends the reading. A whole
number is then always blamed by name. The health factor has two gaps: not-a-number is found when no
name is at hand, and a number so little below zero that nothing is left of it in wad passes for
zero.
-/

namespace MoneyMarket

open Text Numeral

/-! ## Decimals in wad -/

namespace Decimal

theorem fit_zero (e : Int) : (fit 0 e).1 = 0 := by
  unfold fit dropDigits
  simp only
  split
  · rfl
  · simp [nearestEven, tenPow_pos]

theorem times_finite (negative : Bool) (c : Nat) (e : Int) (n : Nat) :
    (finite negative c e).times n = .error .overflow ∨
      ∃ c' e', (finite negative c e).times n = .ok (finite negative c' e') ∧ (c = 0 → c' = 0) := by
  simp only [times]
  split
  · exact .inl rfl
  · refine .inr ⟨_, _, rfl, ?_⟩
    rintro rfl
    rw [Nat.zero_mul, fit_zero]

/-- A number can be had in wad. -/
def InBounds (d : Decimal) : Prop := d.times (tenPow 18) ≠ .error .overflow

instance (d : Decimal) : Decidable d.InBounds :=
  decidable_of_iff (¬ ∃ cause, d.times (tenPow 18) = .error cause ∧ cause = .overflow) <| by
    simp [InBounds]

/-- A finite decimal that is not below zero and not beyond what can be had in wad. -/
def Formed (s : String) : Prop :=
  ∃ negative c e, read? s = some (.finite negative c e) ∧ (negative = true → c = 0) ∧
    InBounds (.finite negative c e)

/-- What a text comes to in wad. Quiet not-a-number fails in a way of its own. -/
inductive InWad (s : String) : Except Failure Int → Prop
  | notANumber (h : read? s = some (.notANumber false)) : InWad s (.error .notANumber)
  | failed {cause : Failure} (hcause : cause ≠ .notANumber)
    (hread : read? s ≠ some (.notANumber false)) (h : ¬ Formed s) : InWad s (.error cause)
  | negative {c : Nat} {e : Int} (hread : read? s = some (.finite true c e)) (hc : c ≠ 0) (w : Nat) :
    InWad s (.ok (-w))
  | formed (h : Formed s) (w : Nat) : InWad s (.ok w)

theorem inWad_units (s : String) : InWad s (units 18 s) := by
  unfold units
  cases hread : read? s with
  | none => exact .failed nofun (by simp [hread]) (by simp [Formed, hread])
  | some d =>
    cases d with
    | infinite negative => exact .failed nofun (by simp [hread]) (by simp [Formed, hread])
    | notANumber signalling =>
      cases signalling with
      | true => exact .failed nofun (by simp [hread]) (by simp [Formed, hread])
      | false => exact .notANumber hread
    | finite negative c e =>
      rcases times_finite negative c e (tenPow 18) with hover | ⟨c', e', htimes, hzero⟩
      · simp only [hover]
        refine .failed nofun (by simp [hread]) ?_
        rintro ⟨_, _, _, hsame, -, hbound⟩
        rw [hread] at hsame
        cases hsame
        exact hbound hover
      · have hbound : InBounds (.finite negative c e) := by simp [InBounds, htimes]
        simp only [htimes]
        cases negative with
        | false => exact .formed ⟨false, c, e, hread, nofun, hbound⟩ (wholePart c' e')
        | true =>
          -- a zero with a minus sign is not below zero
          by_cases hc : c = 0
          · have hnone : truncated (.finite true c' e') = .ok ((0 : Nat) : Int) := by
              simp [truncated, hzero hc, wholePart]
            rw [ok_bind, hnone]
            exact .formed ⟨true, c, e, hread, fun _ => hc, hbound⟩ 0
          · exact .negative hread hc (wholePart c' e')

end Decimal

namespace Environment

/-! ## What is malformed -/

def wholeNames : List String :=
  ["POOL_MARGIN_LTV", "POOL_MARGIN_LIQUIDATION_THRESHOLD", "POOL_MARGIN_LIQUIDATION_BONUS",
    "POOL_CLOSE_FACTOR"]

def decimalName : String := "POOL_FULL_LIQUIDATION_HF"

def WholeFormed (raw : String) : Prop := ∃ n, 0 ≤ n ∧ whole (trimmed raw) = .ok n

def DecimalFormed (raw : String) : Prop := Decimal.Formed (trimmed raw)

/-- The variable is set to something malformed. -/
def Offends (env : Environment) (name : String) : Prop :=
  ∃ raw, env.setting? name = some raw ∧
    (name ∈ wholeNames ∧ ¬ WholeFormed raw ∨ name = decimalName ∧ ¬ DecimalFormed raw)

/-- The message begins with the name. -/
def Blames (f : Fault) (name : String) : Prop :=
  ∃ cause rest, f = .invalid cause ∧ cause.message = name ++ rest

/-- Not a number, or below zero and yet zero in wad. -/
def Escapes (raw : String) : Prop :=
  Decimal.read? (trimmed raw) = some (.notANumber false) ∨
    ∃ c e, Decimal.read? (trimmed raw) = some (.finite true c e) ∧ c ≠ 0 ∧
      Decimal.wad (trimmed raw) = .ok 0

/-- Only the decimal is malformed, in a way that is not looked for. -/
def Slips (env : Environment) : Prop :=
  (∀ name ∈ wholeNames, ¬ env.Offends name) ∧
    ∃ raw, env.setting? decimalName = some raw ∧ Escapes raw

variable {env : Environment} {name raw : String}

theorem blames_notWhole (name raw : String) : Blames (.invalid (.settingNotWhole name raw)) name :=
  ⟨.settingNotWhole name raw, " must be an integer, got " ++ quoted raw, rfl, String.append_assoc⟩

theorem blames_notDecimal (name raw : String) :
    Blames (.invalid (.settingNotDecimal name raw)) name :=
  ⟨.settingNotDecimal name raw, " must be a decimal number, got " ++ quoted raw, rfl,
    String.append_assoc⟩

theorem blames_negative (name value : String) :
    Blames (.invalid (.settingNegative name value)) name :=
  ⟨.settingNegative name value, " must be non-negative, got " ++ value, rfl, String.append_assoc⟩

/-! ## Reading one variable -/

theorem wholeSetting_cases (name raw : String) :
    (WholeFormed raw ∧ ∃ n, wholeSetting name raw = .ok n) ∨
      (¬ WholeFormed raw ∧ ∃ f, wholeSetting name raw = .error f ∧ Blames f name) := by
  unfold wholeSetting WholeFormed
  cases hread : whole (trimmed raw) with
  | error e => exact .inr ⟨fun ⟨_, _, h⟩ => (nomatch h), _, rfl, blames_notWhole name raw⟩
  | ok n =>
    by_cases hn : n < 0
    · refine .inr ⟨?_, _, if_pos hn, blames_negative name _⟩
      rintro ⟨m, hm, hok⟩
      cases hok
      omega
    · exact .inl ⟨⟨n, Int.not_lt.1 hn, rfl⟩, n, if_neg hn⟩

theorem wadSetting_cases (name raw : String) :
    (DecimalFormed raw ∧ ∃ n, wadSetting name raw = .ok n) ∨
      (¬ DecimalFormed raw ∧ ¬ Escapes raw ∧ ∃ f, wadSetting name raw = .error f ∧ Blames f name) ∨
      (¬ DecimalFormed raw ∧ Escapes raw ∧ ((∃ n, wadSetting name raw = .ok n) ∨
        wadSetting name raw = .error (.invalid .settingNotNumber))) := by
  have hread : Decimal.InWad (trimmed raw) (Decimal.wad (trimmed raw)) := Decimal.inWad_units _
  unfold wadSetting DecimalFormed Escapes
  generalize Decimal.wad (trimmed raw) = result at hread ⊢
  cases hread with
  | notANumber hnan => exact .inr (.inr ⟨by simp [Decimal.Formed, hnan], .inl hnan, .inr rfl⟩)
  | @failed cause hcause hnan hmalformed =>
    refine .inr (.inl ⟨hmalformed, ?_, _, ?_, blames_notDecimal name raw⟩)
    · rintro (h | ⟨_, _, _, _, h⟩)
      · exact hnan h
      · cases h
    · cases cause with
      | notANumber => exact absurd rfl hcause
      | _ => rfl
  | @negative c e hsigned hc w =>
    have hmalformed : ¬ Decimal.Formed (trimmed raw) := by
      rintro ⟨_, _, _, hsame, hsign, -⟩
      rw [hsigned] at hsame
      cases hsame
      exact hc (hsign rfl)
    -- the sign is looked at after the fraction is cut off
    by_cases hw : w = 0
    · subst hw
      exact .inr (.inr ⟨hmalformed, .inr ⟨c, e, hsigned, hc, rfl⟩, .inl ⟨_, rfl⟩⟩)
    · refine .inr (.inl ⟨hmalformed, ?_, _, if_pos (by omega), blames_negative name _⟩)
      rintro (hnan | ⟨_, _, _, _, hnothing⟩)
      · rw [hsigned] at hnan
        cases hnan
      · rw [Except.ok.injEq] at hnothing
        omega
  | formed hformed w => exact .inl ⟨hformed, w, if_neg (by omega)⟩

/-! ## Reading them all -/

theorem wholeOr_cases (env : Environment) (hname : name ∈ wholeNames) (default : Int) :
    (env.Offends name ∧ ∃ f, env.wholeOr name default = .error f ∧ Blames f name) ∨
      (¬ env.Offends name ∧ ∃ n, env.wholeOr name default = .ok n) := by
  unfold wholeOr
  cases hset : env.setting? name with
  | none => exact .inr ⟨fun ⟨_, h, _⟩ => by simp [hset] at h, _, rfl⟩
  | some raw =>
    rcases wholeSetting_cases name raw with ⟨hformed, hok⟩ | ⟨hmalformed, hblamed⟩
    · refine .inr ⟨?_, hok⟩
      rintro ⟨_, hraw, ⟨-, hbad⟩ | ⟨rfl, -⟩⟩
      · rw [hset] at hraw
        cases hraw
        exact hbad hformed
      · exact absurd hname (by decide)
    · exact .inl ⟨⟨raw, hset, .inl ⟨hname, hmalformed⟩⟩, hblamed⟩

theorem wadOr_cases (env : Environment) (default : Int) :
    (¬ env.Offends decimalName ∧ ∃ n, env.wadOr decimalName default = .ok n) ∨
      (env.Offends decimalName ∧ (∀ raw, env.setting? decimalName = some raw → ¬ Escapes raw) ∧
        ∃ f, env.wadOr decimalName default = .error f ∧ Blames f decimalName) ∨
      (env.Offends decimalName ∧ (∃ raw, env.setting? decimalName = some raw ∧ Escapes raw) ∧
        ((∃ n, env.wadOr decimalName default = .ok n) ∨
          env.wadOr decimalName default = .error (.invalid .settingNotNumber))) := by
  unfold wadOr
  cases hset : env.setting? decimalName with
  | none => exact .inl ⟨fun ⟨_, h, _⟩ => by simp [hset] at h, _, rfl⟩
  | some raw =>
    have hoffends (h : ¬ DecimalFormed raw) : env.Offends decimalName :=
      ⟨raw, hset, .inr ⟨rfl, h⟩⟩
    rcases wadSetting_cases decimalName raw with
      ⟨hformed, hok⟩ | ⟨hmalformed, hescapes, hblamed⟩ | ⟨hmalformed, hescapes, hread⟩
    · refine .inl ⟨?_, hok⟩
      rintro ⟨_, hraw, ⟨hname, -⟩ | ⟨-, hbad⟩⟩
      · exact absurd hname (by decide)
      · rw [hset] at hraw
        cases hraw
        exact hbad hformed
    · refine .inr (.inl ⟨hoffends hmalformed, ?_, hblamed⟩)
      intro _ hraw
      cases hraw
      exact hescapes
    · exact .inr (.inr ⟨hoffends hmalformed, ⟨raw, rfl, hescapes⟩, hread⟩)

theorem load_cases (base : PoolParams) (env : Environment) :
    (∃ f name, name ∈ wholeNames ∧ env.Offends name ∧ base.load env = .error f ∧ Blames f name) ∨
      ((∀ name ∈ wholeNames, ¬ env.Offends name) ∧ ∃ assemble : Int → PoolParams, base.load env =
        (env.wadOr decimalName base.liquidation.fullLiquidationHealthFactor).map assemble) := by
  have hcases (name : String) (hname : name ∈ wholeNames) (default : Int) :=
    env.wholeOr_cases hname default
  unfold PoolParams.load
  rcases hcases "POOL_MARGIN_LTV" (by decide) base.margin.ltv with
    ⟨hoffends, f, hread, hblames⟩ | ⟨h₁, ltv, hread⟩
  · exact .inl ⟨f, _, by decide, hoffends, by rw [hread]; rfl, hblames⟩
  rw [hread, ok_bind]
  rcases hcases "POOL_MARGIN_LIQUIDATION_THRESHOLD" (by decide)
    base.margin.liquidationThreshold with ⟨hoffends, f, hread, hblames⟩ | ⟨h₂, threshold, hread⟩
  · exact .inl ⟨f, _, by decide, hoffends, by rw [hread]; rfl, hblames⟩
  rw [hread, ok_bind]
  rcases hcases "POOL_MARGIN_LIQUIDATION_BONUS" (by decide) base.margin.liquidationBonus with
    ⟨hoffends, f, hread, hblames⟩ | ⟨h₃, bonus, hread⟩
  · exact .inl ⟨f, _, by decide, hoffends, by rw [hread]; rfl, hblames⟩
  rw [hread, ok_bind]
  rcases hcases "POOL_CLOSE_FACTOR" (by decide) base.liquidation.closeFactor with
    ⟨hoffends, f, hread, hblames⟩ | ⟨h₄, closeFactor, hread⟩
  · exact .inl ⟨f, _, by decide, hoffends, by rw [hread]; rfl, hblames⟩
  rw [hread, ok_bind]
  exact .inr ⟨by simp [wholeNames, h₁, h₂, h₃, h₄], _, rfl⟩

theorem Offends.head (h : env.Offends name) : name.toList.head? = some 'P' := by
  have hmem : name ∈ decimalName :: wholeNames := by
    obtain ⟨_, -, ⟨hname, -⟩ | ⟨hname, -⟩⟩ := h
    · exact List.mem_cons_of_mem _ hname
    · exact hname ▸ List.mem_cons_self
  exact (by decide : ∀ name ∈ decimalName :: wholeNames, name.toList.head? = some 'P') name hmem

theorem Offends.not_blamed (h : env.Offends name) : ¬ Blames (.invalid .settingNotNumber) name := by
  rintro ⟨cause, rest, ⟨⟩, hmessage⟩
  have hhead : ("cannot convert NaN to integer" : String).toList.head? = some 'P' := by
    rw [show ("cannot convert NaN to integer" : String) = name ++ rest from hmessage,
      String.toList_append, List.head?_append, h.head, Option.some_or]
  exact absurd hhead (by decide)

/-- **Malformed overrides.** Well-formed overrides are taken. Others are refused by a message that
begins with the name of one of them, except when just the decimal is malformed and escapes. -/
theorem load_blames_iff (base : PoolParams) (env : Environment) :
    ((∀ name, ¬ env.Offends name) → ∃ params, base.load env = .ok params) ∧
    ((∃ name, env.Offends name) →
      ((∃ f name, base.load env = .error f ∧ env.Offends name ∧ Blames f name) ↔ ¬ env.Slips)) := by
  rcases load_cases base env with
    ⟨f, name, hname, hoffends, hload, hblames⟩ | ⟨hwhole, assemble, hload⟩
  · refine ⟨fun h => absurd hoffends (h name), fun _ => ?_⟩
    exact iff_of_true ⟨f, name, hload, hoffends, hblames⟩ fun hslips => hslips.1 name hname hoffends
  rw [hload]
  rcases env.wadOr_cases base.liquidation.fullLiquidationHealthFactor with
    ⟨hfine, n, hread⟩ | ⟨hoffends, hescapes, f, hread, hblames⟩ | ⟨hoffends, hescapes, hread⟩
  · refine ⟨fun _ => ⟨assemble n, by rw [hread]; rfl⟩, ?_⟩
    rintro ⟨name, raw, hraw, hbad⟩
    rcases hbad with hbad | ⟨rfl, hbad⟩
    · exact absurd ⟨raw, hraw, .inl hbad⟩ (hwhole name hbad.1)
    · exact absurd ⟨raw, hraw, .inr ⟨rfl, hbad⟩⟩ hfine
  · refine ⟨fun h => absurd hoffends (h _), fun _ => ?_⟩
    refine iff_of_true ⟨f, decimalName, by rw [hread]; rfl, hoffends, hblames⟩ ?_
    rintro ⟨-, raw, hraw, hescape⟩
    exact hescapes raw hraw hescape
  · refine ⟨fun h => absurd hoffends (h _), fun _ => iff_of_false ?_ fun h => h ⟨hwhole, hescapes⟩⟩
    rintro ⟨f, name, hfailed, hname, hblames⟩
    rcases hread with ⟨n, hread⟩ | hread
    · rw [hread] at hfailed
      cases hfailed
    · rw [hread] at hfailed
      cases hfailed
      exact hname.not_blamed hblames

def only (raw : String) : Environment := fun name => if name = decimalName then some raw else none

theorem setting?_only (hset : trimmed raw ≠ "") (name : String) :
    (only raw).setting? name = if name = decimalName then some raw else none := by
  unfold setting? only
  split <;> simp [hset]

theorem offends_only_iff (hset : trimmed raw ≠ "") :
    (only raw).Offends name ↔ name = decimalName ∧ ¬ DecimalFormed raw := by
  unfold Offends
  rw [setting?_only hset]
  constructor
  · rintro ⟨_, hraw, ⟨hname, -⟩ | ⟨rfl, hbad⟩⟩
    · split at hraw
      · rename_i hdecimal
        exact absurd hname (hdecimal ▸ by decide)
      · cases hraw
    · rw [if_pos rfl] at hraw
      cases hraw
      exact ⟨rfl, hbad⟩
  · rintro ⟨rfl, hbad⟩
    exact ⟨raw, if_pos rfl, .inr ⟨rfl, hbad⟩⟩

theorem load_only (base : PoolParams) (hset : trimmed raw ≠ "") :
    ∃ assemble, base.load (only raw) = (wadSetting decimalName raw).map assemble := by
  rcases load_cases base (only raw) with ⟨_, name, hname, hoffends, -⟩ | ⟨-, assemble, hload⟩
  · rw [((offends_only_iff hset).1 hoffends).1] at hname
    exact absurd hname (by decide)
  · rw [wadOr, setting?_only hset] at hload
    exact ⟨assemble, hload⟩

theorem notDecimal_blamed :
    (∃ params, PoolParams.load {} (only " 0.95") = .ok params) ∧
      ∃ f name, PoolParams.load {} (only "not-a-number") = .error f ∧
        (only "not-a-number").Offends name ∧ Blames f name := by
  have hwell : DecimalFormed " 0.95" :=
    ⟨false, 95, -2, by decide +kernel, nofun, by decide +kernel⟩
  have hread : Decimal.read? (trimmed "not-a-number") = none := by decide +kernel
  have hbad : ¬ DecimalFormed "not-a-number" := by
    rintro ⟨_, _, _, h, -⟩
    rw [hread] at h
    cases h
  constructor
  · refine (load_blames_iff {} (only " 0.95")).1 fun name hname => ?_
    exact ((offends_only_iff (by decide +kernel)).1 hname).2 hwell
  · refine ((load_blames_iff {} (only "not-a-number")).2
      ⟨decimalName, (offends_only_iff (by decide +kernel)).2 ⟨rfl, hbad⟩⟩).2 ?_
    rintro ⟨-, raw, hraw, hescapes⟩
    cases (hraw : some "not-a-number" = some raw)
    rcases hescapes with h | ⟨_, _, h, -⟩
    · rw [hread] at h
      cases h
    · rw [hread] at h
      cases h

/-- Not-a-number is refused without naming the variable, and a number just below zero is taken. -/
theorem notNumber_unnamed :
    ((only "NaN").Offends decimalName ∧ ∃ f, PoolParams.load {} (only "NaN") = .error f ∧
      ∀ name, (only "NaN").Offends name → ¬ Blames f name) ∧
    (only "-1e-30").Offends decimalName ∧
      ∃ params, PoolParams.load {} (only "-1e-30") = .ok params := by
  have hset : trimmed "NaN" ≠ "" ∧ trimmed "-1e-30" ≠ "" := by decide +kernel
  have hnan : Decimal.read? (trimmed "NaN") = some (.notANumber false) := by decide +kernel
  have htiny : Decimal.read? (trimmed "-1e-30") = some (.finite true 1 (-30)) := by decide +kernel
  have htaken : ∃ n, wadSetting decimalName "-1e-30" = .ok n ∧ n = 0 := by decide +kernel
  have hrefused : wadSetting decimalName "NaN" = .error (.invalid .settingNotNumber) := by
    rw [wadSetting, Decimal.wad, Decimal.units, hnan]
    rfl
  refine ⟨⟨(offends_only_iff hset.1).2 ⟨rfl, ?_⟩, _, ?_, fun _ h => h.not_blamed⟩,
    (offends_only_iff hset.2).2 ⟨rfl, ?_⟩, ?_⟩
  · rintro ⟨_, _, _, hread, -⟩
    rw [hnan] at hread
    cases hread
  · obtain ⟨assemble, hload⟩ := load_only {} hset.1
    rw [hload, hrefused]
    rfl
  · rintro ⟨_, _, _, hread, hsign, -⟩
    rw [htiny] at hread
    cases hread
    exact absurd (hsign rfl) (by decide)
  · obtain ⟨assemble, hload⟩ := load_only {} hset.2
    obtain ⟨n, hn, -⟩ := htaken
    exact ⟨assemble n, by rw [hload, hn]; rfl⟩

end Environment

end MoneyMarket
