import MoneyMarket.Proofs.Ledger.Contributions
import MoneyMarket.Proofs.Pool.Deposit
import MoneyMarket.Proofs.Pool.Indices

/-!
# Usable collateral

A liquidation asks what is shown of a supply, and a report what is stored of it. No index is below
one, so they agree on what is collateral.
-/

namespace MoneyMarket.Pool

open MoneyMarket.FixedPoint MoneyMarket.Ledger MoneyMarket.Reserve

variable {p : Pool} {user asset : Key} {r : Reserve} {now : Int}

theorem Attainable.supplyOf_pos_iff (h : Attainable p) (user : Key) (hnow : p.clock ≤ now)
    (hr : p.ledger.reserve? asset = some r) :
    ∃ balance, p.ledger.supplyOf user asset r now = .ok balance ∧
      ∀ pos, p.ledger.position? user asset = some pos → (0 < balance ↔ 0 < pos.scaledBalance) := by
  have hrunning : Running now r := (h.timely.running _ _ hr).later hnow
  unfold supplyOf
  cases hpos : p.ledger.position? user asset with
  | none => exact ⟨0, rfl, nofun⟩
  | some pos =>
    have hsupply : 0 ≤ pos.scaledBalance := by
      have hamount := h.timely.balanced.supply.nonneg asset user
      rwa [amount, hpos] at hamount
    obtain ⟨balance, hbalance, hiff⟩ :=
      hrunning.supplyBalance_pos_iff (h.grown _ _ hr).income hsupply
    refine ⟨balance, hbalance, ?_⟩
    intro _ hsame
    cases hsame
    exact hiff

theorem Attainable.seizable_iff (h : Attainable p) (user : Key) (hnow : p.clock ≤ now)
    (hr : p.ledger.reserve? asset = some r) :
    ∃ balance, p.ledger.supplyOf user asset r now = .ok balance ∧
      (p.ledger.seizable user asset r balance = true ↔
        ∃ pos, p.ledger.position? user asset = some pos ∧ countsAsCollateral r pos = true) := by
  obtain ⟨balance, hbalance, hiff⟩ := h.supplyOf_pos_iff user hnow hr
  refine ⟨balance, hbalance, ?_⟩
  unfold seizable
  cases hpos : p.ledger.position? user asset with
  | none => simp
  | some pos => simp [countsAsCollateral, hiff pos hpos]

theorem listed_iff {l : Ledger} {supplied : List Contribution} (hnamed : Named l)
    (h : l.Listed now (l.userPositions user).entries supplied) (hr : l.reserve? asset = some r) :
    (∃ c ∈ supplied, c.source.key = asset) ↔
      ∃ pos, l.position? user asset = some pos ∧ countsAsCollateral r pos = true := by
  constructor
  · rintro ⟨c, hc, hsource⟩
    obtain ⟨e, he, ⟨s, hs, hcounts, -⟩, hasset⟩ := h.made c hc
    have hpos : l.position? user e.1 = some e.2 := Table.get?_of_mem he
    rw [hasset, hnamed _ _ _ hpos] at hsource
    subst hsource
    obtain rfl : r = s := Option.some.inj (hr.symm.trans hs)
    exact ⟨e.2, hpos, hcounts⟩
  · rintro ⟨pos, hpos, hcounts⟩
    obtain ⟨c, hc, hcontributes⟩ := h.given (asset, pos) (Table.mem_of_get? hpos) r hr hcounts
    exact ⟨c, hc, by rw [hcontributes.source, hnamed _ _ _ hpos]⟩

/-- **Usable collateral.** A supply can be seized exactly if the report has a contribution of its
asset. Margin collateral is available exactly if the report has a contribution for it, of that
amount, after those of listed assets. -/
theorem usable_iff_reported (h : Reachable p) (hnow : p.clock ≤ now) {report : SolvencyReport}
    (hreport : p.ledger.solvency p.surroundings user now = .ok report) :
    (∀ asset r, p.ledger.reserve? asset = some r → asset ≠ marginSource.key →
      ∃ balance, p.ledger.supplyOf user asset r now = .ok balance ∧
        (p.ledger.seizable user asset r balance = true ↔
          ∃ c ∈ report.collateral, c.source.key = asset)) ∧
    ∃ supplied margin available, report.collateral = supplied ++ margin ∧
      (∀ c ∈ supplied, ∃ r, p.ledger.reserve? c.source.key = some r) ∧
      p.ledger.availableMarginCollateral p.surroundings user
        (.text p.params.margin.referenceAsset) = .ok (.whole available) ∧
      (0 < available ↔ ∃ c, margin = [c] ∧ c.source = marginSource ∧ c.amount = available) ∧
      (¬ 0 < available ↔ margin = []) := by
  obtain ⟨supplied, margin, available, hcollateral, hlisted, havailable, hmargin⟩ :=
    solvency_collateral hreport
  constructor
  · intro asset r hr hasset
    obtain ⟨balance, hbalance, hseizable⟩ := h.attainable.seizable_iff user hnow hr
    refine ⟨balance, hbalance, ?_⟩
    rw [hseizable, ← listed_iff h.attainable.named hlisted hr, hcollateral]
    constructor
    · rintro ⟨c, hc, hsource⟩
      exact ⟨c, List.mem_append_left _ hc, hsource⟩
    · rintro ⟨c, hc, hsource⟩
      rcases List.mem_append.1 hc with hc | hc
      · exact ⟨c, hc, hsource⟩
      · -- margin collateral has a source that is no asset here
        rcases hmargin with ⟨-, d, rfl, hd, -⟩ | ⟨-, rfl⟩
        · rw [List.mem_singleton] at hc
          rw [hc, hd] at hsource
          exact absurd hsource.symm hasset
        · cases hc
  · refine ⟨supplied, margin, available, hcollateral, ?_, havailable, ?_⟩
    · intro c hc
      obtain ⟨e, he, ⟨r, hr, -⟩, hsource⟩ := hlisted.made c hc
      exact ⟨r, by rw [hsource, h.attainable.named _ _ _ (Table.get?_of_mem he), hr]⟩
    · rcases hmargin with ⟨hpos, c, rfl, hsource, hamount⟩ | ⟨hnone, rfl⟩
      · exact ⟨iff_of_true hpos ⟨c, rfl, hsource, hamount⟩, iff_of_false (fun h => h hpos) nofun⟩
      · exact ⟨iff_of_false hnone nofun, iff_of_true hnone rfl⟩

def pledgedBothWays : List Operation :=
  [.initReserve .dai (.kinked .stableTwo),
    .initReserve .usdc (.kinked .stableTwo),
    .initReserve .weth (.kinked .weth),
    .setPrice (.text "DAI") (.whole wad),
    .setPrice (.text "USDC") (.whole wad),
    .setPrice (.text "WETH") (.whole wad),
    .deposit (.text "DAI") 1000 (.text "ana"),
    .deposit (.text "USDC") 500 (.text "ana"),
    .setUsageAsCollateral (.text "ana") (.text "USDC") false,
    .pushMargin (.text "ana") { collateral := .whole 333 } 1,
    .setUsingMargin (.text "ana") true]

theorem bothWays_usable :
    let p := run {} pledgedBothWays
    ∃ report, p.solvency (.text "ana") = .ok report ∧
      report.collateral.map (·.source) = [.text "DAI", marginSource] ∧
      (∃ r balance, p.ledger.reserve? (.text "DAI") = some r ∧
        p.ledger.supplyOf (.text "ana") (.text "DAI") r p.clock = .ok balance ∧
        p.ledger.seizable (.text "ana") (.text "DAI") r balance = true) ∧
      ∃ available, p.ledger.availableMarginCollateral p.surroundings (.text "ana") (.text "WETH") =
        .ok (.whole available) ∧ 0 < available := by
  intro p
  have hreachable : Reachable p := ⟨⟨{}, 0, pledgedBothWays, rfl⟩, by decide +kernel⟩
  obtain ⟨report, hreport, hsources⟩ : ∃ report, p.solvency (.text "ana") = .ok report ∧
      report.collateral.map (·.source) = [.text "DAI", marginSource] := by decide +kernel
  have hsource (name : Name) (hname : name ∈ [.text "DAI", marginSource]) :
      ∃ c ∈ report.collateral, c.source = name := by
    rw [← hsources] at hname
    exact List.mem_map.1 hname
  obtain ⟨hsupplies, supplied, margin, available, hall, hlisted, havailable, hpositive, hnone⟩ :=
    usable_iff_reported hreachable (Int.le_refl p.clock) hreport
  refine ⟨report, hreport, hsources, ?_, available, havailable, ?_⟩
  · obtain ⟨r, hr⟩ : ∃ r, p.ledger.reserve? (.text "DAI") = some r :=
      Option.isSome_iff_exists.1 (by decide +kernel)
    obtain ⟨balance, hbalance, hseizable⟩ := hsupplies (.text "DAI") r hr (by decide)
    obtain ⟨c, hc, hdai⟩ := hsource (.text "DAI") (by simp)
    exact ⟨r, balance, hr, hbalance, hseizable.2 ⟨c, hc, by rw [hdai]; rfl⟩⟩
  · by_contra hzero
    rw [hnone.1 hzero, List.append_nil] at hall
    obtain ⟨c, hc, hmargin⟩ := hsource marginSource (by simp)
    obtain ⟨r, hr⟩ := hlisted c (hall ▸ hc)
    have hunlisted : p.ledger.reserve? marginSource.key = none := by decide +kernel
    rw [hmargin, hunlisted] at hr
    cases hr

end MoneyMarket.Pool
