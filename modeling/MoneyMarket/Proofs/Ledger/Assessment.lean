import MoneyMarket.Proofs.Ledger.Outlook
import MoneyMarket.Proofs.Ledger.Loans
import MoneyMarket.Proofs.Solvency

/-!
# Assessments in whole numbers

As long as no token counts in fractions of its unit, each position pledges collateral and owes debts
of whole value. Whatever it pledges, it pledges with the parameters of its reserve.
-/

namespace MoneyMarket

open MoneyMarket.FixedPoint MoneyMarket.Reserve

def Reserve.wholeValue (r : Reserve) (price amount : Int) : Int :=
  price * amount / Numeral.tenPow r.config.decimals.toNat

namespace Ledger

theorem WholeTokens.turns {now : Int} {named : Key → Prop} {l m : Ledger} (hl : l.WholeTokens)
    (h : Turns now named l m) : m.WholeTokens :=
  fun _ _ => h.config_of (I := fun config => 0 ≤ config.decimals) hl

/-! ## One position -/

section Position

variable {s : Surroundings} {r : Reserve} {pos : Position} {now : Int}

def contribution (r : Reserve) (pos : Position) (price balance : Int) : Contribution where
  source := pos.asset
  amount := balance
  value := .whole (r.wholeValue price balance)
  ltv := r.config.baseLtv
  liquidationThreshold := r.config.liquidationThreshold

def Pledged (s : Surroundings) (r : Reserve) (pos : Position) (now : Int)
    (cs : List Contribution) : Prop :=
  if countsAsCollateral r pos then
    ∃ price balance, s.prices.requirePrice pos.asset = .ok price ∧
      pos.supplyBalance r now = .ok balance ∧ cs = [contribution r pos price balance]
  else cs = []

def Owing (s : Surroundings) (r : Reserve) (pos : Position) (now debt : Int) : Prop :=
  if pos.isBorrowing then
    ∃ price stable floating, s.prices.requirePrice pos.asset = .ok price ∧
      pos.stableDebt now = .ok stable ∧ pos.variableDebt r now = .ok floating ∧
      debt = r.wholeValue price (stable + floating)
  else debt = 0

theorem valueOf_whole (hwhole : 0 ≤ r.config.decimals) {price amount : Int} {q : Quantity} :
    valueOf price amount r.config.decimals = .ok q ↔ q = .whole (r.wholeValue price amount) := by
  rw [valueOf_of_nonneg _ _ hwhole, Except.ok.injEq]
  exact eq_comm

theorem debtValue_whole (hwhole : 0 ≤ r.config.decimals) {price : Int} {q : Quantity} :
    debtValue r pos price now = .ok q ↔ ∃ stable floating, pos.stableDebt now = .ok stable ∧
      pos.variableDebt r now = .ok floating ∧
      q = .whole (r.wholeValue price (stable + floating)) := by
  simp only [debtValue, bind_ok_iff, valueOf_whole hwhole]
  constructor
  · rintro ⟨stable, hstable, floating, hfloating, hq⟩
    exact ⟨stable, floating, hstable, hfloating, hq⟩
  · rintro ⟨stable, floating, hstable, hfloating, hq⟩
    exact ⟨stable, hstable, floating, hfloating, hq⟩

theorem assess_iff {cs : List Contribution} {q : Quantity} :
    assess s r pos now = .ok (cs, q) ↔
      (if countsAsCollateral r pos then
        ∃ price balance value, s.prices.requirePrice pos.asset = .ok price ∧
          pos.supplyBalance r now = .ok balance ∧
          valueOf price balance r.config.decimals = .ok value ∧
          cs = [{ contribution r pos price balance with value }]
      else cs = []) ∧
      if pos.isBorrowing then
        ∃ price, s.prices.requirePrice pos.asset = .ok price ∧ debtValue r pos price now = .ok q
      else q = .whole 0 := by
  unfold assess
  cases countsAsCollateral r pos <;> cases pos.isBorrowing <;>
    simp only [Bool.not_true, Bool.not_false, Bool.and_self, Bool.false_eq_true, if_true, if_false,
      Bool.and_false, Bool.false_and, bind_ok_iff, pure_ok_iff, Prod.mk.injEq, exists_eq_left']
  · exact and_congr eq_comm eq_comm
  · constructor
    · rintro ⟨price, hprice, _, hdebt, rfl, rfl⟩
      exact ⟨rfl, price, hprice, hdebt⟩
    · rintro ⟨rfl, price, hprice, hdebt⟩
      exact ⟨price, hprice, q, hdebt, rfl, rfl⟩
  · constructor
    · rintro ⟨price, hprice, balance, hbalance, value, hvalue, rfl, rfl⟩
      exact ⟨⟨price, balance, value, hprice, hbalance, hvalue, rfl⟩, rfl⟩
    · rintro ⟨⟨price, balance, value, hprice, hbalance, hvalue, rfl⟩, rfl⟩
      exact ⟨price, hprice, balance, hbalance, value, hvalue, rfl, rfl⟩
  · constructor
    · rintro ⟨price, hprice, balance, hbalance, value, hvalue, _, hdebt, rfl, rfl⟩
      exact ⟨⟨price, balance, value, hprice, hbalance, hvalue, rfl⟩, price, hprice, hdebt⟩
    · rintro ⟨⟨price, balance, value, hprice, hbalance, hvalue, rfl⟩, price', hprice', hdebt⟩
      obtain rfl : price' = price := Except.ok.inj (hprice'.symm.trans hprice)
      exact ⟨price', hprice, balance, hbalance, value, hvalue, q, hdebt, rfl, rfl⟩

theorem assess_ok_iff (hwhole : 0 ≤ r.config.decimals) {cs : List Contribution} {q : Quantity} :
    assess s r pos now = .ok (cs, q) ↔
      Pledged s r pos now cs ∧ ∃ debt, Owing s r pos now debt ∧ q = .whole debt := by
  rw [assess_iff]
  refine and_congr ?_ ?_
  · unfold Pledged
    simp only [valueOf_whole hwhole]
    split
    · constructor
      · rintro ⟨price, balance, _, hprice, hbalance, rfl, rfl⟩
        exact ⟨price, balance, hprice, hbalance, rfl⟩
      · rintro ⟨price, balance, hprice, hbalance, rfl⟩
        exact ⟨price, balance, _, hprice, hbalance, rfl, rfl⟩
    · rfl
  · unfold Owing
    simp only [debtValue_whole hwhole]
    split
    · constructor
      · rintro ⟨price, hprice, stable, floating, hstable, hfloating, rfl⟩
        exact ⟨_, ⟨price, stable, floating, hprice, hstable, hfloating, rfl⟩, rfl⟩
      · rintro ⟨_, ⟨price, stable, floating, hprice, hstable, hfloating, rfl⟩, rfl⟩
        exact ⟨price, hprice, stable, floating, hstable, hfloating, rfl⟩
    · simp

theorem supplyBalance_nonneg {balance : Int} (h : pos.supplyBalance r now = .ok balance) :
    0 ≤ balance := by
  unfold Position.supplyBalance at h
  split at h
  · cases h
    exact Int.le_refl 0
  · simp only [bind_ok_iff] at h
    obtain ⟨_, _, h⟩ := h
    exact rayMul_nonneg h

theorem variableDebt_nonneg {debt : Int} (h : pos.variableDebt r now = .ok debt) : 0 ≤ debt := by
  unfold Position.variableDebt at h
  split at h
  · cases h
    exact Int.le_refl 0
  · simp only [bind_ok_iff] at h
    obtain ⟨_, _, h⟩ := h
    exact rayMul_nonneg h

theorem stableDebt_nonneg {debt : Int} (h : pos.stableDebt now = .ok debt) : 0 ≤ debt :=
  StableLoan.debt_nonneg (x := pos.loan) h

theorem wholeValue_mono {price amount more : Int} (hprice : 0 < price) (h : amount ≤ more) :
    r.wholeValue price amount ≤ r.wholeValue price more := by
  have hunits : (0 : Int) < Numeral.tenPow r.config.decimals.toNat := by
    exact_mod_cast Numeral.tenPow_pos r.config.decimals.toNat
  exact Int.ediv_le_ediv hunits (Int.mul_le_mul_of_nonneg_left h (Int.le_of_lt hprice))

theorem wholeValue_nonneg {price amount : Int} (hprice : 0 < price) (h : 0 ≤ amount) :
    0 ≤ r.wholeValue price amount := by
  have hzero : r.wholeValue price 0 = 0 := by
    unfold wholeValue
    rw [Int.mul_zero, Int.zero_ediv]
  rw [← hzero]
  exact wholeValue_mono hprice h

variable {cs : List Contribution} {debt : Int}

theorem contribution_plain {price balance : Int} (hprice : 0 < price) (hbalance : 0 ≤ balance) :
    (contribution r pos price balance).Plain :=
  Contribution.plain_of_value rfl (wholeValue_nonneg hprice hbalance)

theorem Pledged.plain (h : Pledged s r pos now cs) : ∀ c ∈ cs, c.Plain := by
  unfold Pledged at h
  split at h
  · obtain ⟨price, balance, hprice, hbalance, rfl⟩ := h
    have hpos := (PriceBoard.requirePrice_eq_ok.1 hprice).2
    simpa using contribution_plain hpos (supplyBalance_nonneg hbalance)
  · subst h
    simp

theorem Owing.nonneg (h : Owing s r pos now debt) : 0 ≤ debt := by
  unfold Owing at h
  split at h
  · obtain ⟨price, stable, floating, hprice, hstable, hfloating, rfl⟩ := h
    have hpos := (PriceBoard.requirePrice_eq_ok.1 hprice).2
    have hs := stableDebt_nonneg hstable
    have hv := variableDebt_nonneg hfloating
    exact wholeValue_nonneg hpos (by omega)
  · omega

theorem Pledged.weigh (h : Pledged s r pos now cs) :
    weigh (·.ltv) cs = r.config.baseLtv * worthOf cs ∧
    weigh (·.liquidationThreshold) cs = r.config.liquidationThreshold * worthOf cs ∧
    (cs = [] ∨ 0 < r.config.liquidationThreshold) := by
  unfold Pledged at h
  split at h
  · rename_i hcounts
    obtain ⟨price, balance, _, _, rfl⟩ := h
    simp only [countsAsCollateral, Bool.and_eq_true, decide_eq_true_eq] at hcounts
    exact ⟨by simp [contribution], by simp [contribution], .inr hcounts.1.2⟩
  · subst h
    simp

end Position

/-! ## All positions -/

variable {s : Surroundings} {now : Int} {l : Ledger} {u : Key}
  {cs ds : List Contribution} {debt owed : Int}

inductive Assessed (reserve? : Key → Option Reserve) (s : Surroundings) (now : Int) :
    List (Key × Position) → List Contribution → Int → Prop
  | nil : Assessed reserve? s now [] [] 0
  | cons {e : Key × Position} {es : List (Key × Position)} {r : Reserve}
      {mine cs : List Contribution} {owed debt : Int} (hr : reserve? e.1 = some r)
      (hpledged : Pledged s r e.2 now mine) (howing : Owing s r e.2 now owed)
      (h : Assessed reserve? s now es cs debt) :
      Assessed reserve? s now (e :: es) (mine ++ cs) (owed + debt)

section Assessed

variable {reserve? : Key → Option Reserve} {es fs : List (Key × Position)}

theorem Assessed.plain (h : Assessed reserve? s now es cs debt) :
    (∀ c ∈ cs, c.Plain) ∧ 0 ≤ debt := by
  induction h with
  | nil => simp
  | cons hr hpledged howing _ ih =>
    have howed := howing.nonneg
    refine ⟨?_, by omega⟩
    intro c hc
    rcases List.mem_append.1 hc with hc | hc
    · exact hpledged.plain c hc
    · exact ih.1 c hc

theorem assessed_append_iff : Assessed reserve? s now (es ++ fs) cs debt ↔
    ∃ front back first rest, Assessed reserve? s now es front first ∧
      Assessed reserve? s now fs back rest ∧ cs = front ++ back ∧ debt = first + rest := by
  constructor
  · intro h
    induction es generalizing cs debt with
    | nil => exact ⟨[], cs, 0, debt, .nil, h, rfl, by omega⟩
    | cons e es ih =>
      cases h with
      | cons hr hpledged howing h =>
        obtain ⟨front, back, first, rest, hfront, hback, rfl, rfl⟩ := ih h
        exact ⟨_, back, _, rest, .cons hr hpledged howing hfront, hback, by simp, by omega⟩
  · rintro ⟨front, back, first, rest, hfront, hback, rfl, rfl⟩
    induction hfront with
    | nil => simpa using hback
    | cons hr hpledged howing _ ih =>
      have hcons := Assessed.cons hr hpledged howing ih
      rwa [← List.append_assoc, ← Int.add_assoc] at hcons

theorem Pledged.unique {r : Reserve} {pos : Position} (h : Pledged s r pos now cs)
    (h' : Pledged s r pos now ds) : cs = ds := by
  unfold Pledged at h h'
  split at h
  · rename_i hcounts
    rw [if_pos hcounts] at h'
    obtain ⟨price, balance, hprice, hbalance, rfl⟩ := h
    obtain ⟨price', balance', hprice', hbalance', rfl⟩ := h'
    rw [hprice, Except.ok.injEq] at hprice'
    rw [hbalance, Except.ok.injEq] at hbalance'
    rw [hprice', hbalance']
  · rename_i hcounts
    rw [if_neg hcounts] at h'
    rw [h, h']

theorem Owing.unique {r : Reserve} {pos : Position} (h : Owing s r pos now debt)
    (h' : Owing s r pos now owed) : debt = owed := by
  unfold Owing at h h'
  split at h
  · rename_i howes
    rw [if_pos howes] at h'
    obtain ⟨price, stable, floating, hprice, hstable, hfloating, rfl⟩ := h
    obtain ⟨price', stable', floating', hprice', hstable', hfloating', rfl⟩ := h'
    rw [hprice, Except.ok.injEq] at hprice'
    rw [hstable, Except.ok.injEq] at hstable'
    rw [hfloating, Except.ok.injEq] at hfloating'
    rw [hprice', hstable', hfloating']
  · rename_i howes
    rw [if_neg howes] at h'
    rw [h, h']

theorem Assessed.unique (h : Assessed reserve? s now es cs debt)
    (h' : Assessed reserve? s now es ds owed) : cs = ds ∧ debt = owed := by
  induction h generalizing ds owed with
  | nil =>
    cases h'
    exact ⟨rfl, rfl⟩
  | cons hr hpledged howing _ ih =>
    cases h' with
    | cons hr' hpledged' howing' h' =>
      rw [hr, Option.some.injEq] at hr'
      subst hr'
      obtain ⟨rfl, rfl⟩ := ih h'
      exact ⟨by rw [hpledged.unique hpledged'], by rw [howing.unique howing']⟩

end Assessed

theorem foldlM_assessNext_iff (hwhole : l.WholeTokens) {es : List (Key × Position)} {q : Quantity} :
    es.foldlM (l.assessNext s now) (cs, .whole debt) = .ok (ds, q) ↔
      ∃ more owed, Assessed l.reserve? s now es more owed ∧ ds = cs ++ more ∧
        q = .whole (debt + owed) := by
  -- the fold goes on from what was found before, so this has to be any list and any debt
  induction es generalizing cs debt with
  | nil =>
    simp only [List.foldlM_nil, pure_ok_iff, Prod.mk.injEq]
    constructor
    · rintro ⟨rfl, rfl⟩
      exact ⟨[], 0, .nil, by simp, by simp⟩
    · rintro ⟨_, _, h, rfl, rfl⟩
      cases h
      simp
  | cons e es ih =>
    simp only [List.foldlM_cons, bind_ok_iff]
    constructor
    · rintro ⟨⟨cs', q'⟩, hnext, hrest⟩
      unfold assessNext at hnext
      cases hr : l.reserve? e.1 with
      | none =>
        rw [hr] at hnext
        cases hnext
      | some r =>
        rw [hr] at hnext
        simp only [bind_ok_iff, pure_ok_iff, Prod.exists, Prod.mk.injEq] at hnext
        obtain ⟨mine, owed, hassess, _, hsum, rfl, rfl⟩ := hnext
        obtain ⟨hpledged, owed, howing, rfl⟩ := (assess_ok_iff (hwhole _ _ hr)).1 hassess
        cases hsum
        obtain ⟨more, rest, hassessed, rfl, rfl⟩ := ih.1 hrest
        exact ⟨mine ++ more, owed + rest, .cons hr hpledged howing hassessed, by simp, by
          rw [Int.add_assoc]⟩
    · rintro ⟨_, _, h, rfl, rfl⟩
      cases h with
      | @cons _ _ r mine more owed rest hr hpledged howing hassessed =>
        have hassess := (assess_ok_iff (hwhole _ _ hr)).2 ⟨hpledged, owed, howing, rfl⟩
        refine ⟨(cs ++ mine, .whole (debt + owed)), ?_, ?_⟩
        · unfold assessNext
          simp only [hr, hassess, ok_bind]
          rfl
        · exact ih.2 ⟨more, rest, hassessed, by simp, by rw [Int.add_assoc]⟩

end Ledger

end MoneyMarket
