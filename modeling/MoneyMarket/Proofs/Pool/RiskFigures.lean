import MoneyMarket.Proofs.Ledger.RiskFigures
import MoneyMarket.Proofs.Pool.Journal

/-!
# Risk figures in runs

Two runs that differ in reported risk figures answer every operation alike, and leave the same pool
but for these figures in the feed.
-/

namespace MoneyMarket.Pool

open MoneyMarket.FixedPoint MoneyMarket.Ledger MoneyMarket.LedgerWork

variable {p : Pool} {g : MarginFeed} {op op' : Operation}

/-- The two are the same, or push a report of which only the risk figures differ. -/
inductive Operation.Alike : Operation → Operation → Prop
  | same {op : Operation} : Alike op op
  | pushMargin {user : Name} {report report' : MarginReport} {sequence : Int}
      (h : report.Alike report') :
      Alike (.pushMargin user report sequence) (.pushMargin user report' sequence)

def Operation.Pushes : Operation → Prop
  | .pushMargin _ _ _ => True
  | _ => False

def answers (p : Pool) : List Operation → List (Except Fault Outcome)
  | [] => []
  | op :: rest => (p.perform op).2 :: answers (p.after op) rest

/-! ## Operations on accounts -/

section Alike

variable (h : p.feed.Alike g)
include h

theorem requireHealthy_alike (l : Ledger) (user : Name) (action : String) :
    ({ p with feed := g } : Pool).requireHealthy l user action = p.requireHealthy l user action :=
  solvencyUsing_bind (s := p.surroundings) h fun _ _ => rfl

theorem admitBorrow_alike (l : Ledger) (asset : Name) (amount : Int) (user : Name) :
    ({ p with feed := g } : Pool).admitBorrow l asset amount user =
      p.admitBorrow l asset amount user := by
  unfold admitBorrow
  refine bind_congr fun r => bind_congr fun _ => bind_congr fun _ => bind_congr fun _ =>
    bind_congr fun _ => ?_
  dsimp only
  cases r.config.borrowingEnabled with
  | false => rfl
  | true =>
    refine bind_congr fun _ => bind_congr fun _ => ?_
    exact solvencyUsing_bind (s := p.surroundings) h fun _ _ => rfl

theorem admitMarginSwitch_alike (l : Ledger) (user : Name) (enabled : Bool) :
    ({ p with feed := g } : Pool).admitMarginSwitch l user enabled =
      p.admitMarginSwitch l user enabled := by
  unfold admitMarginSwitch
  congr 1
  funext _
  exact solvencyUsing_bind (s := p.surroundings) h fun _ _ => rfl

theorem transaction?_alike (op : Operation) :
    ({ p with feed := g } : Pool).transaction? op = p.transaction? op := by
  have hsurroundings : ({ p with feed := g } : Pool).surroundings =
      { p.surroundings with feed := g } := rfl
  cases op
  case withdraw =>
    simp only [transaction?, withdrawing, requireHealthy_alike h]
    rfl
  case borrow =>
    simp only [transaction?, borrowing, admitBorrow_alike h, requireHealthy_alike h]
    rfl
  case setUsageAsCollateral =>
    simp only [transaction?, switchingCollateral, requireHealthy_alike h]
    rfl
  case setUsingMargin => simp only [transaction?, switchingMargin, admitMarginSwitch_alike h]
  case liquidate =>
    simp only [transaction?, liquidating, hsurroundings, liquidate_alike (s := p.surroundings) h]
    rfl
  case liquidateMargin =>
    simp only [transaction?, settleMargin, hsurroundings,
      liquidateMargin_alike (s := p.surroundings) h]
    rfl
  -- deposits and repayments look at no account's solvency
  all_goals rfl

end Alike

theorem transact_feed {α : Type} (work : LedgerWork (Receipt α)) :
    ({ p with feed := g } : Pool).transact work =
      ({ (p.transact work).1 with feed := g }, (p.transact work).2) := by
  unfold transact
  dsimp only
  cases work.atomically p.ledger <;> rfl

/-! ## Administration -/

theorem changeOnly_feed (result : Except Fault Pool) :
    ({ p with feed := g } : Pool).changeOnly (result.map ({ · with feed := g })) =
      ({ (p.changeOnly result).1 with feed := g }, (p.changeOnly result).2) := by
  cases result <;> rfl

theorem initReserve_feed (config : ReserveConfig) (strategy : RateStrategy) :
    ({ p with feed := g } : Pool).initReserve config strategy =
      (p.initReserve config strategy).map ({ · with feed := g }) := by
  unfold initReserve
  dsimp only
  split
  · rfl
  · split
    · rfl
    · rw [map_bind]
      rfl

theorem modifyReserve_feed (asset : Name) (f : Reserve → Except Fault Reserve) :
    ({ p with feed := g } : Pool).modifyReserve asset f =
      (p.modifyReserve asset f).map ({ · with feed := g }) := by
  simp only [modifyReserve, map_bind]
  rfl

theorem administration_feed (htx : p.transaction? op = none) (hpush : ¬ op.Pushes) :
    ({ p with feed := g } : Pool).perform op =
      ({ (p.perform op).1 with feed := g }, (p.perform op).2) := by
  cases op <;> simp only [transaction?, reduceCtorEq] at htx
  case pushMargin => exact absurd trivial hpush
  case setPaused | setOffline => rfl
  case initReserve config strategy =>
    simp only [perform, initReserve_feed]
    exact changeOnly_feed _
  case setReserveActive | setReserveFrozen | setReservePaused | govern =>
    simp only [perform, setReserveActive, setReserveFrozen, setReservePaused, govern,
      modifyReserve_feed]
    exact changeOnly_feed _
  case setTimestamp time =>
    unfold perform setTimestamp
    dsimp only
    split <;> rfl
  case advanceTime seconds =>
    unfold perform advanceTime
    dsimp only
    split <;> rfl
  case setPrice asset price =>
    simp only [perform, setPrice]
    cases p.prices.setPrice asset price <;> rfl

theorem perform_pushMargin (user : Name) (report : MarginReport) (sequence : Int) :
    p.perform (.pushMargin user report sequence) =
      match p.feed.push user report sequence with
      | .ok (feed, stored) => ({ p with feed }, .ok (.stored stored))
      | .error f => (p, .error f) := by
  simp only [perform, pushMargin]
  cases p.feed.push user report sequence <;> rfl

/-! ## Runs -/

theorem perform_feed (h : p.feed.Alike g) (hpush : ¬ op.Pushes) :
    ({ p with feed := g } : Pool).perform op =
      ({ p.after op with feed := g }, (p.perform op).2) := by
  cases htx : p.transaction? op with
  | none => exact administration_feed htx hpush
  | some work =>
    have htx' := (transaction?_alike h op).trans htx
    unfold after
    rw [perform_transaction htx, perform_transaction htx']
    exact transact_feed work

theorem after_feed (hpush : ¬ op.Pushes) : (p.after op).feed = p.feed := by
  -- a pool is the same with its own feed put in, which is then the one afterwards
  have hsame := perform_feed (.refl p.feed) hpush
  exact congrArg (fun attempt => attempt.1.feed) hsame

theorem push_alike (h : p.feed.Alike g) {user : Name} {r t : MarginReport} {sequence : Int}
    (hrt : (t.checked user sequence).map MarginSnapshot.bare =
      (r.checked user sequence).map MarginSnapshot.bare) :
    ∃ g', ({ p with feed := g } : Pool).perform (.pushMargin user t sequence) =
      ({ p.after (.pushMargin user r sequence) with feed := g' },
        (p.perform (.pushMargin user r sequence)).2) ∧
      (p.after (.pushMargin user r sequence)).feed.Alike g' := by
  unfold after
  rw [perform_pushMargin, perform_pushMargin]
  rcases h.push hrt with ⟨e, hf, hg⟩ | ⟨f', g', stored, hf, hg, halike⟩
  · simp only [hf, hg]
    exact ⟨g, rfl, h⟩
  · simp only [hf, hg]
    exact ⟨g', rfl, halike⟩

/-- The operations answer alike, and their pools differ in feeds that are alike again. -/
theorem perform_alike (h : p.feed.Alike g) (hop : op.Alike op') :
    ∃ g', ({ p with feed := g } : Pool).perform op' =
      ({ p.after op with feed := g' }, (p.perform op).2) ∧ (p.after op).feed.Alike g' := by
  cases hop with
  | pushMargin hreport => exact push_alike h (hreport.checked _ _)
  | same =>
    by_cases hpush : op.Pushes
    · cases op <;> try contradiction
      exact push_alike h rfl
    · refine ⟨g, perform_feed h hpush, ?_⟩
      rwa [after_feed hpush]

theorem run_alike {ops others : List Operation} (hops : List.Forall₂ Operation.Alike ops others)
    (h : p.feed.Alike g) : ({ p with feed := g } : Pool).answers others = p.answers ops ∧
      ∃ g', ({ p with feed := g } : Pool).run others = { p.run ops with feed := g' } ∧
        (p.run ops).feed.Alike g' := by
  -- each operation may change the feeds, so the induction is over any two that are alike
  induction hops generalizing p g with
  | nil => exact ⟨rfl, g, rfl, h⟩
  | @cons op op' ops others hop hrest ih =>
    obtain ⟨g₁, hperform, h₁⟩ := perform_alike h hop
    have hafter : ({ p with feed := g } : Pool).after op' = { p.after op with feed := g₁ } :=
      congrArg Prod.fst hperform
    obtain ⟨hanswers, g', hrun, h'⟩ := ih h₁
    refine ⟨?_, g', ?_, h'⟩
    · unfold answers
      rw [hperform, hafter, hanswers]
    · show (({ p with feed := g } : Pool).after op').run others = _
      rw [hafter, hrun]
      rfl

/-- **Inert figures.** Two runs of a pool that differ in nothing but the risk figures of reports, all
accepted, answer every operation alike. All along they leave pools of which only the feeds differ,
and every report on an account is the same but for the risk figures of its snapshot. -/
theorem riskFigures_inert (p : Pool) {ops others : List Operation}
    (h : List.Forall₂ Operation.Alike ops others) :
    p.answers others = p.answers ops ∧ ∀ n,
      let a := p.run (ops.take n)
      let b := p.run (others.take n)
      b = { a with feed := b.feed } ∧
        ∀ user now usingMargin,
          (b.ledger.solvencyUsing b.surroundings user now usingMargin).map SolvencyReport.bare =
            (a.ledger.solvencyUsing a.surroundings user now usingMargin).map SolvencyReport.bare := by
  refine ⟨(run_alike h (.refl p.feed)).1, ?_⟩
  intro n a b
  obtain ⟨-, g, hb, halike⟩ := run_alike (List.forall₂_take n h) (.refl p.feed)
  have hb : b = { a with feed := g } := hb
  rw [hb]
  exact ⟨rfl, fun user now usingMargin =>
    solvencyUsing_alike (s := a.surroundings) halike a.ledger user now usingMargin⟩

def Operation.withRisk (maintenanceMargin valueAtRisk : Int) : Operation → Operation
  | .pushMargin user report sequence =>
    .pushMargin user
      { report with
        maintenanceMargin := .whole maintenanceMargin, valueAtRisk := .whole valueAtRisk }
      sequence
  | op => op

theorem Operation.withRisk_alike {m v m' v' : Int} (hm : 0 ≤ m) (hv : 0 ≤ v) (hm' : 0 ≤ m')
    (hv' : 0 ≤ v') (op : Operation) : (op.withRisk m v).Alike (op.withRisk m' v') := by
  cases op
  case pushMargin =>
    exact .pushMargin ⟨rfl, rfl, ⟨⟨m, rfl, hm⟩, m', rfl, hm'⟩, ⟨v, rfl, hv⟩, v', rfl, hv'⟩
  all_goals exact .same

/-- What is at risk is far beyond the collateral in one of two runs. -/
theorem two_liquidations_inert :
    let calm := audited.map (·.withRisk 0 0)
    let alarming := audited.map (·.withRisk 1000000 2000000)
    ((run {} alarming).feed ≠ (run {} calm).feed ∧
      (run {} calm).settlement.instructions.length = 1) ∧
    answers {} alarming = answers {} calm ∧
    ∀ n, (run {} (alarming.take n)).events = (run {} (calm.take n)).events := by
  intro calm alarming
  have halike : List.Forall₂ Operation.Alike calm alarming := by
    rw [List.forall₂_map_left_iff, List.forall₂_map_right_iff, List.forall₂_same]
    intro op _
    exact op.withRisk_alike (by decide) (by decide) (by decide) (by decide)
  obtain ⟨hanswers, hsame⟩ := riskFigures_inert {} halike
  refine ⟨by decide +kernel, hanswers, fun n => ?_⟩
  rw [(hsame n).1]

end MoneyMarket.Pool
