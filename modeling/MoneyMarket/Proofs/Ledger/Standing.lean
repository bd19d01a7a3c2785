import MoneyMarket.Proofs.Ledger.Assessment

/-!
# What an account has and owes

The report on an account is one on what all its positions pledge and owe, and on its margin
collateral. Two accounts that differ in one position differ in what that position pledges and owes,
so that a change of the position is a change of the report.
-/

namespace MoneyMarket

open MoneyMarket.FixedPoint MoneyMarket.Reserve

namespace Ledger

variable {s : Surroundings} {now : Int} {l : Ledger} {u : Key}
  {cs ds : List Contribution} {debt owed : Int}

/-! ## Accounts -/

def countedMargin (l : Ledger) (s : Surroundings) (user : Key) : Except Fault (List Contribution) :=
  if l.usesMargin user then l.marginContribution s user else .ok []

/-- What an account has as collateral, and what it owes. -/
def Stands (l : Ledger) (s : Surroundings) (user : Key) (now : Int) (cs : List Contribution)
    (debt : Int) : Prop :=
  ∃ supplies margin, Assessed l.reserve? s now (l.userPositions user).entries supplies debt ∧
    l.countedMargin s user = .ok margin ∧ cs = supplies ++ margin

theorem referenceValue_ok_iff (hwhole : l.WholeTokens) {amount : Int} {q : Quantity} :
    l.referenceValue s amount = .ok q ↔ ∃ r price,
      l.reserve? (.text s.margin.referenceAsset) = some r ∧
      s.prices.requirePrice (.text s.margin.referenceAsset) = .ok price ∧
      q = .whole (r.wholeValue price amount) := by
  unfold referenceValue
  dsimp only
  cases hr : l.reserve? (Name.text s.margin.referenceAsset) with
  | none => simp_all
  | some r => simp_all [bind_ok_iff, valueOf_whole (hwhole _ _ hr)]

theorem marginContribution_plain (hwhole : l.WholeTokens) (h : l.marginContribution s u = .ok cs) :
    ∀ c ∈ cs, c.Plain := by
  unfold marginContribution at h
  dsimp only at h
  split at h
  · rename_i hamount
    simp only [bind_ok_iff, pure_ok_iff] at h
    obtain ⟨value, hvalue, rfl⟩ := h
    obtain ⟨r, price, _, hprice, rfl⟩ := (referenceValue_ok_iff hwhole).1 hvalue
    have hpos := (PriceBoard.requirePrice_eq_ok.1 hprice).2
    simpa using Contribution.plain_of_value rfl (wholeValue_nonneg hpos (Int.le_of_lt hamount))
  · cases h
    simp

theorem Stands.plain (hwhole : l.WholeTokens) (h : l.Stands s u now cs debt) :
    (∀ c ∈ cs, c.Plain) ∧ 0 ≤ debt := by
  obtain ⟨supplies, margin, hassessed, hmargin, rfl⟩ := h
  refine ⟨?_, hassessed.plain.2⟩
  intro c hc
  rcases List.mem_append.1 hc with hc | hc
  · exact hassessed.plain.1 c hc
  · unfold countedMargin at hmargin
    split at hmargin
    · exact marginContribution_plain hwhole hmargin c hc
    · cases hmargin
      cases hc

theorem Stands.unique (h : l.Stands s u now cs debt) (h' : l.Stands s u now ds owed) :
    cs = ds ∧ debt = owed := by
  obtain ⟨supplies, margin, hassessed, hmargin, rfl⟩ := h
  obtain ⟨supplies', margin', hassessed', hmargin', rfl⟩ := h'
  obtain ⟨rfl, rfl⟩ := hassessed.unique hassessed'
  rw [hmargin, Except.ok.injEq] at hmargin'
  rw [hmargin']
  exact ⟨rfl, rfl⟩

def shownSnapshot (l : Ledger) (s : Surroundings) (user : Key) : Option MarginSnapshot :=
  if l.usesMargin user then some (s.feed.snapshot user) else none

theorem solvency_ok_iff (hwhole : l.WholeTokens) {report : SolvencyReport} :
    l.solvency s u now = .ok report ↔ ∃ cs debt, l.Stands s u now cs debt ∧
      SolvencyReport.of cs (.whole debt) (l.shownSnapshot s u) = .ok report := by
  have hassess : ∀ {supplies q}, l.assessAll s u now = .ok (supplies, q) ↔
      ∃ owed, Assessed l.reserve? s now (l.userPositions u).entries supplies owed ∧
        q = .whole owed := by
    intro supplies q
    unfold assessAll
    rw [foldlM_assessNext_iff hwhole]
    constructor
    · rintro ⟨more, owed, h, rfl, rfl⟩
      exact ⟨owed, h, by simp⟩
    · rintro ⟨owed, h, rfl⟩
      exact ⟨supplies, owed, h, rfl, by simp⟩
  unfold solvency solvencyUsing Stands countedMargin shownSnapshot
  simp only [bind_ok_iff, Prod.exists, hassess]
  split
  · simp only [bind_ok_iff]
    constructor
    · rintro ⟨supplies, _, ⟨owed, h, rfl⟩, margin, hmargin, hof⟩
      exact ⟨_, owed, ⟨supplies, margin, h, hmargin, rfl⟩, hof⟩
    · rintro ⟨_, owed, ⟨supplies, margin, h, hmargin, rfl⟩, hof⟩
      exact ⟨supplies, _, ⟨owed, h, rfl⟩, margin, hmargin, hof⟩
  · constructor
    · rintro ⟨supplies, _, ⟨owed, h, rfl⟩, hof⟩
      exact ⟨supplies, owed, ⟨supplies, [], h, rfl, by simp⟩, hof⟩
    · rintro ⟨_, owed, ⟨supplies, margin, h, hmargin, rfl⟩, hof⟩
      cases hmargin
      rw [List.append_nil] at hof
      exact ⟨supplies, _, ⟨owed, h, rfl⟩, hof⟩

theorem solvency_whole (hwhole : l.WholeTokens) {report : SolvencyReport}
    (h : l.solvency s u now = .ok report) :
    ∃ cs debt, l.Stands s u now cs debt ∧ report.Whole cs debt := by
  obtain ⟨cs, debt, hstands, hof⟩ := (solvency_ok_iff hwhole).1 h
  have hplain := hstands.plain hwhole
  exact ⟨cs, debt, hstands, SolvencyReport.whole_of hplain.1 hplain.2 hof⟩

theorem Stands.solvency_ok_iff (hwhole : l.WholeTokens) (h : l.Stands s u now cs debt) :
    (∃ report, l.solvency s u now = .ok report) ↔
      0 ≤ average (·.ltv) cs ∧ (debt = 0 ∨ 0 ≤ average (·.liquidationThreshold) cs) := by
  have hplain := h.plain hwhole
  rw [← @SolvencyReport.of_whole cs debt (l.shownSnapshot s u) hplain.1 hplain.2]
  constructor
  · rintro ⟨report, hreport⟩
    obtain ⟨_, _, h', hof⟩ := (Ledger.solvency_ok_iff hwhole).1 hreport
    obtain ⟨rfl, rfl⟩ := h.unique h'
    exact ⟨report, hof⟩
  · rintro ⟨report, hof⟩
    exact ⟨report, (Ledger.solvency_ok_iff hwhole).2 ⟨cs, debt, h, hof⟩⟩

/-! ## Another position -/

theorem position_eq (l : Ledger) (u : Key) (asset : Name) :
    l.position u asset = ((l.userPositions u).get? asset.key).getD { asset } := rfl

theorem pledged_blank (r : Reserve) (asset : Name) :
    Pledged s r { asset := asset } now [] ∧ Owing s r { asset := asset } now 0 := by
  simp [Pledged, Owing, countsAsCollateral, Position.isBorrowing]

/-- What one position pledges and owes can be exchanged for what another would. -/
theorem Stands.exchange {asset : Name} {r : Reserve} (hr : l.reserve? asset = some r)
    (h : l.Stands s u now cs debt) : ∃ front mine back rest owed,
      Pledged s r (l.position u asset) now mine ∧ Owing s r (l.position u asset) now owed ∧
      cs = front ++ mine ++ back ∧ debt = rest + owed ∧
      ∀ pos mine owed, Pledged s r pos now mine → Owing s r pos now owed →
        (l.setPosition u asset pos).Stands s u now (front ++ mine ++ back) (rest + owed) := by
  obtain ⟨supplies, margin, hassessed, hmargin, rfl⟩ := h
  obtain ⟨before, after, _, hentries, hset⟩ := (l.userPositions u).entries_split asset.key
  rw [hentries, assessed_append_iff] at hassessed
  obtain ⟨_, later, _, rest₂, hleft, hlater, rfl, rfl⟩ := hassessed
  rw [assessed_append_iff] at hleft
  obtain ⟨earlier, mine, rest₁, owed, hearlier, hmine, rfl, rfl⟩ := hleft
  have hown : Pledged s r (l.position u asset) now mine ∧
      Owing s r (l.position u asset) now owed := by
    rw [position_eq]
    cases hpos : (l.userPositions u).get? asset.key with
    | none =>
      rw [hpos] at hmine
      cases hmine
      exact pledged_blank r asset
    | some pos =>
      rw [hpos] at hmine
      cases hmine with
      | cons hr' hpledged howing hnil =>
        cases hnil
        rw [hr, Option.some.injEq] at hr'
        subst hr'
        simpa using ⟨hpledged, howing⟩
  refine ⟨earlier, mine, later ++ margin, rest₁ + rest₂, owed, hown.1, hown.2, by simp, by omega, ?_⟩
  -- the table keeps the place of the position, or puts a new one last
  intro pos mine' owed' hpledged howing
  refine ⟨earlier ++ mine' ++ later, margin, ?_, hmargin, by simp⟩
  rw [userPositions_setPosition, if_pos rfl, hset]
  have htail := Assessed.cons (e := (asset.key, pos)) hr hpledged howing hlater
  have hall := assessed_append_iff.2 ⟨_, _, _, _, hearlier, htail, rfl, rfl⟩
  have hdebt : rest₁ + rest₂ + owed' = rest₁ + (owed' + rest₂) := by omega
  rw [hdebt, List.append_assoc]
  exact hall

theorem Stands.differ {asset : Name} {r : Reserve} (hr : l.reserve? asset = some r)
    {pos : Position} (h : l.Stands s u now cs debt)
    (h' : (l.setPosition u asset pos).Stands s u now ds owed) :
    ∃ front back rest mine part mine' part', Pledged s r (l.position u asset) now mine ∧
      Owing s r (l.position u asset) now part ∧ Pledged s r pos now mine' ∧
      Owing s r pos now part' ∧ cs = front ++ mine ++ back ∧ debt = rest + part ∧
      ds = front ++ mine' ++ back ∧ owed = rest + part' := by
  obtain ⟨front, mine, back, rest, part, hpledged, howing, rfl, rfl, hexchange⟩ := h.exchange hr
  have hr' : (l.setPosition u asset pos).reserve? asset = some r := hr
  obtain ⟨_, mine', _, _, part', hpledged', howing', _, _, _⟩ := h'.exchange hr'
  have hpos : (l.setPosition u asset pos).position u asset = pos := by
    simp [position]
  rw [hpos] at hpledged' howing'
  obtain ⟨rfl, rfl⟩ := h'.unique (hexchange pos mine' part' hpledged' howing')
  exact ⟨front, back, rest, mine, part, mine', part', hpledged, howing, hpledged', howing', rfl,
    rfl, rfl, rfl⟩

/-! ## More collateral -/

/-- `q` is `p` with no less supply, which counts as collateral if that of `p` does. -/
structure Fuller (p q : Position) : Prop where
  asset : q.asset = p.asset
  nonneg : 0 ≤ p.scaledBalance
  supply : p.scaledBalance ≤ q.scaledBalance
  flag : p.usedAsCollateral → q.usedAsCollateral
  debt : q.scaledVariableDebt = p.scaledVariableDebt
  loan : q.loan = p.loan

section Fuller

variable {r : Reserve} {p q : Position}

theorem countsAsCollateral_iff : countsAsCollateral r p = true ↔
    p.usedAsCollateral = true ∧ 0 < r.config.liquidationThreshold ∧ 0 < p.scaledBalance := by
  simp [countsAsCollateral, and_assoc]

theorem owing_congr (hasset : q.asset = p.asset)
    (hdebt : q.scaledVariableDebt = p.scaledVariableDebt) (hloan : q.loan = p.loan) :
    Owing s r q now debt ↔ Owing s r p now debt := by
  have hstable : q.stableDebt now = p.stableDebt now := by
    rw [← Position.debt_loan, hloan, Position.debt_loan]
  have hfloating : q.variableDebt r now = p.variableDebt r now := by
    unfold Position.variableDebt
    rw [hdebt]
  have hprincipal : q.principalStableDebt = p.principalStableDebt :=
    congrArg StableLoan.principal hloan
  have hborrowing : q.isBorrowing = p.isBorrowing := by
    unfold Position.isBorrowing
    rw [hdebt, hprincipal]
  unfold Owing
  rw [hasset, hstable, hfloating, hborrowing]

theorem supplyBalance_mono {b c : Int} (hp : 0 < p.scaledBalance)
    (hle : p.scaledBalance ≤ q.scaledBalance) (hb : p.supplyBalance r now = .ok b)
    (hc : q.supplyBalance r now = .ok c) : b ≤ c := by
  unfold Position.supplyBalance at hb hc
  rw [if_neg (by omega)] at hb hc
  simp only [bind_ok_iff, rayMul_ok_iff] at hb hc
  obtain ⟨income, hincome, _, hnonneg, rfl⟩ := hb
  obtain ⟨_, hsame, _, _, rfl⟩ := hc
  rw [hincome, Except.ok.injEq] at hsame
  rw [← hsame, mulRound_comm _ _ p.scaledBalance, mulRound_comm _ _ q.scaledBalance]
  exact rayRound_mono hnonneg hle

theorem Fuller.pledged (h : Fuller p q) (hp : Pledged s r p now cs) (hq : Pledged s r q now ds) :
    worthOf cs ≤ worthOf ds := by
  have hnonneg := worthOf_nonneg hq.plain
  unfold Pledged at hp hq
  split at hp
  · rename_i hcounts
    obtain ⟨hflag, hthreshold, hsupply⟩ := countsAsCollateral_iff.1 hcounts
    have hmore := h.supply
    rw [if_pos (countsAsCollateral_iff.2 ⟨h.flag hflag, hthreshold, by omega⟩)] at hq
    obtain ⟨price, b, hprice, hb, rfl⟩ := hp
    obtain ⟨price', c, hprice', hc, rfl⟩ := hq
    rw [h.asset, hprice, Except.ok.injEq] at hprice'
    subst hprice'
    have hpos := (PriceBoard.requirePrice_eq_ok.1 hprice).2
    have hvalue : r.wholeValue price b ≤ r.wholeValue price c :=
      wholeValue_mono hpos (supplyBalance_mono hsupply hmore hb hc)
    simpa [contribution, Contribution.worth] using hvalue
  · rw [hp]
    exact hnonneg

theorem exists_pledged {income : Int} (hprice : 0 < r.config.liquidationThreshold →
      0 < s.prices.price q.asset) (hincome : r.normalizedIncome now = .ok income)
    (hnonneg : 0 ≤ income) : ∃ cs, Pledged s r q now cs := by
  unfold Pledged
  split
  · rename_i hcounts
    obtain ⟨_, hthreshold, hsupply⟩ := countsAsCollateral_iff.1 hcounts
    have husable := PriceBoard.requirePrice_eq_ok.2 ⟨rfl, hprice hthreshold⟩
    have hbalance : q.supplyBalance r now =
        .ok (mulRound ray halfRay q.scaledBalance income) := by
      unfold Position.supplyBalance
      rw [if_neg (by omega), hincome, ok_bind]
      exact rayMul_ok_iff.2 ⟨by omega, hnonneg, rfl⟩
    exact ⟨_, _, _, husable, hbalance, rfl⟩
  · exact ⟨[], rfl⟩

end Fuller

section Fuller

variable {asset : Name} {r : Reserve} {pos : Position}

/-- With a fuller position an account owes the same, and all its collateral weighs no less. -/
theorem Stands.fuller (hr : l.reserve? asset = some r) (hfuller : Fuller (l.position u asset) pos)
    (h : l.Stands s u now cs debt) (h' : (l.setPosition u asset pos).Stands s u now ds owed) :
    owed = debt ∧ worthOf cs ≤ worthOf ds ∧
      weigh (·.liquidationThreshold) cs ≤ weigh (·.liquidationThreshold) ds ∧
      ((0 < r.config.liquidationThreshold → 0 ≤ r.config.baseLtv) →
        weigh (·.ltv) cs ≤ weigh (·.ltv) ds) := by
  obtain ⟨front, back, rest, mine, part, mine', part', hpledged, howing, hpledged', howing',
    rfl, rfl, rfl, rfl⟩ := h.differ hr h'
  have hworth := hfuller.pledged hpledged hpledged'
  have hpart : part' = part :=
    ((owing_congr hfuller.asset hfuller.debt hfuller.loan).1 howing').unique howing
  obtain ⟨hltv, hthreshold, _⟩ := hpledged.weigh
  obtain ⟨hltv', hthreshold', hcollateral⟩ := hpledged'.weigh
  have hnonneg := worthOf_nonneg hpledged.plain
  -- a position that pledges nothing now has pledged nothing before
  have hmore : ∀ k : Int, (0 < r.config.liquidationThreshold → 0 ≤ k) →
      k * worthOf mine ≤ k * worthOf mine' := by
    intro k hk
    rcases hcollateral with rfl | hpos
    · rw [worthOf_nil] at hworth ⊢
      rw [Int.le_antisymm hworth hnonneg]
    · exact Int.mul_le_mul_of_nonneg_left hworth (hk hpos)
  simp only [worthOf_append, weigh_append, hltv, hltv', hthreshold, hthreshold']
  refine ⟨by rw [hpart], by omega, ?_, ?_⟩
  · have := hmore r.config.liquidationThreshold Int.le_of_lt
    omega
  · intro hbase
    have := hmore r.config.baseLtv hbase
    omega

theorem Stands.exists_fuller (hr : l.reserve? asset = some r)
    (hfuller : Fuller (l.position u asset) pos) (h : l.Stands s u now cs debt)
    (hpledged : ∃ ds, Pledged s r pos now ds) :
    ∃ ds, (l.setPosition u asset pos).Stands s u now ds debt := by
  obtain ⟨front, mine, back, rest, part, _, howing, rfl, rfl, hexchange⟩ := h.exchange hr
  obtain ⟨mine', hpledged⟩ := hpledged
  exact ⟨_, hexchange pos mine' part hpledged
    ((owing_congr hfuller.asset hfuller.debt hfuller.loan).2 howing)⟩

end Fuller

/-! ## Less debt -/

/-- `q` is `p` with no more debt. -/
structure Lighter (now : Int) (r : Reserve) (p q : Position) : Prop where
  asset : q.asset = p.asset
  supply : q.scaledBalance = p.scaledBalance
  flag : q.usedAsCollateral = p.usedAsCollateral
  owes : q.scaledVariableDebt ≠ 0 → p.scaledVariableDebt ≠ 0
  borrowing : q.isBorrowing → p.isBorrowing
  stable : ∀ debt, p.stableDebt now = .ok debt → ∃ left, q.stableDebt now = .ok left ∧ left ≤ debt
  floating : ∀ debt, p.variableDebt r now = .ok debt →
    ∃ left, q.variableDebt r now = .ok left ∧ left ≤ debt

section Lighter

variable {r : Reserve} {p q : Position}

theorem pledged_congr (hasset : q.asset = p.asset) (hsupply : q.scaledBalance = p.scaledBalance)
    (hflag : q.usedAsCollateral = p.usedAsCollateral) :
    Pledged s r q now cs ↔ Pledged s r p now cs := by
  have hbalance : q.supplyBalance r now = p.supplyBalance r now := by
    unfold Position.supplyBalance
    rw [hsupply]
  have hcounts : countsAsCollateral r q = countsAsCollateral r p := by
    unfold countsAsCollateral
    rw [hsupply, hflag]
  unfold Pledged contribution
  rw [hasset, hbalance, hcounts]

theorem pledged_of_disabled (hflag : p.usedAsCollateral = false) :
    Pledged s r p now cs ↔ cs = [] := by
  simp [Pledged, countsAsCollateral, hflag]

theorem Lighter.owing (hlighter : Lighter now r p q) (h : Owing s r p now debt) :
    ∃ owed, Owing s r q now owed ∧ owed ≤ debt := by
  by_cases howes : q.isBorrowing
  · unfold Owing at h
    rw [if_pos (hlighter.borrowing howes)] at h
    obtain ⟨price, stable, floating, hprice, hs, hf, rfl⟩ := h
    obtain ⟨stable', hs', hless⟩ := hlighter.stable stable hs
    obtain ⟨floating', hf', hless'⟩ := hlighter.floating floating hf
    have hpos := (PriceBoard.requirePrice_eq_ok.1 hprice).2
    refine ⟨r.wholeValue price (stable' + floating'), ?_, wholeValue_mono hpos (by omega)⟩
    unfold Owing
    rw [if_pos howes]
    exact ⟨price, stable', floating', hlighter.asset ▸ hprice, hs', hf', rfl⟩
  · have hnothing : Owing s r q now 0 := by
      unfold Owing
      rw [if_neg howes]
    exact ⟨0, hnothing, h.nonneg⟩

theorem lighter_of_floating {x : Int} (hx : 0 ≤ x) (hle : x ≤ p.scaledVariableDebt) :
    Lighter now r p { p with scaledVariableDebt := p.scaledVariableDebt - x } := by
  constructor
  · rfl
  · rfl
  · rfl
  · dsimp only
    omega
  · intro howes
    simp only [Position.isBorrowing, Bool.or_eq_true, decide_eq_true_eq] at howes ⊢
    omega
  · intro debt hdebt
    exact ⟨debt, hdebt, Int.le_refl _⟩
  · intro debt hdebt
    have hnonneg := variableDebt_nonneg hdebt
    unfold Position.variableDebt at hdebt ⊢
    dsimp only
    split
    · exact ⟨0, rfl, hnonneg⟩
    · rw [if_neg (by omega)] at hdebt
      simp only [bind_ok_iff, rayMul_ok_iff] at hdebt
      obtain ⟨index, hindex, _, hpos, rfl⟩ := hdebt
      rw [hindex, ok_bind]
      refine ⟨_, rayMul_ok_iff.2 ⟨by omega, hpos, rfl⟩, ?_⟩
      rw [mulRound_comm _ _ _ index, mulRound_comm _ _ _ index]
      exact rayRound_mono hpos (by omega)

theorem lighter_of_stable {amount current : Int} {y : StableLoan} (hamount : 0 ≤ amount)
    (hcurrent : p.stableDebt now = .ok current) (hleft : y.principal = current - min amount current)
    (hdebt : y.debt now = .ok y.principal) : Lighter now r p (p.withLoan y) := by
  have hnonneg := stableDebt_nonneg hcurrent
  constructor
  · rfl
  · rfl
  · rfl
  · exact id
  · intro howes
    have hprincipal : 0 < current → 0 < p.principalStableDebt :=
      StableLoan.principal_pos (x := p.loan) hcurrent
    have howes : 0 < p.scaledVariableDebt ∨ 0 < y.principal := by
      rw [Position.isBorrowing, Bool.or_eq_true, decide_eq_true_eq, decide_eq_true_eq] at howes
      exact howes
    have hgoal : 0 < p.scaledVariableDebt ∨ 0 < p.principalStableDebt := by
      rcases howes with howes | howes
      · exact .inl howes
      · exact .inr (hprincipal (by omega))
    simpa [Position.isBorrowing] using hgoal
  · intro debt hsame
    rw [hcurrent, Except.ok.injEq] at hsame
    exact ⟨y.principal, hdebt, by omega⟩
  · intro debt hfloating
    exact ⟨debt, hfloating, Int.le_refl _⟩

end Lighter

theorem solvency_noWorse (hwhole : l.WholeTokens) {asset : Name} {r : Reserve} {pos : Position}
    (hr : l.reserve? asset = some r)
    (hpledged : ∀ cs, Pledged s r (l.position u asset) now cs → Pledged s r pos now cs)
    (howing : ∀ debt, Owing s r (l.position u asset) now debt →
      ∃ owed, Owing s r pos now owed ∧ owed ≤ debt)
    {before : SolvencyReport} (hbefore : l.solvency s u now = .ok before) :
    ∃ after, (l.setPosition u asset pos).solvency s u now = .ok after ∧ before.NoWorse after := by
  have hwhole' : (l.setPosition u asset pos).WholeTokens := hwhole
  obtain ⟨cs, debt, hstands, hfigures⟩ := solvency_whole hwhole hbefore
  have hplain := hstands.plain hwhole
  obtain ⟨hltv, hthreshold⟩ := (hstands.solvency_ok_iff hwhole).1 ⟨before, hbefore⟩
  obtain ⟨front, mine, back, rest, part, hmine, hpart, rfl, rfl, hexchange⟩ := hstands.exchange hr
  obtain ⟨part', hpart', hless⟩ := howing part hpart
  have hstands' := hexchange pos mine part' (hpledged mine hmine) hpart'
  have howed := (hstands'.plain hwhole').2
  have hnow : rest + part' = 0 ∨ 0 ≤ average (·.liquidationThreshold) (front ++ mine ++ back) := by
    refine hthreshold.imp_left ?_
    omega
  obtain ⟨after, hafter⟩ := (hstands'.solvency_ok_iff hwhole').2 ⟨hltv, hnow⟩
  refine ⟨after, hafter, ?_⟩
  obtain ⟨_, _, hsame, hfigures'⟩ := solvency_whole hwhole' hafter
  obtain ⟨rfl, rfl⟩ := hstands'.unique hsame
  refine ⟨_, _, hfigures.healthFactor, hfigures'.healthFactor, ?_⟩
  exact factor_of_less_debt (worthOf_nonneg hplain.1) hnow howed (by omega)

end Ledger

end MoneyMarket
