import MoneyMarket.Proofs.Ledger.Disclosure
import MoneyMarket.Proofs.Liquidation.Margin
import MoneyMarket.Proofs.Pool.Completed
import MoneyMarket.Proofs.Pool.Timely

/-!
# The journal

The events of a pool, read from the first to the last, give the money in each reserve and the users
who opted in. The receipt of each operation on accounts says what its work has done; what it reports
is published when it is committed, and not otherwise. The counterparty has on record the debits that
are published.
-/

namespace MoneyMarket

/-! ## What an event says -/

/-- A figure as it is counted; one that is not whole does not count. -/
def Quantity.counted : Quantity → Int
  | whole n => n
  | real _ => 0

namespace PoolEvent.Content

/-- What came into the reserve of an asset, less what went out of it. -/
def inflow (a : Key) : Content → Int
  | deposit asset _ amount => if asset.key = a then amount else 0
  | withdraw asset _ _ amount => if asset.key = a then -amount else 0
  | borrow asset _ amount _ _ => if asset.key = a then -amount else 0
  | repay asset _ amount _ => if asset.key = a then amount else 0
  | liquidation collateralAsset debtAsset _ repaid seized _ underlying =>
    (if debtAsset.key = a then repaid.counted else 0) -
      if collateralAsset.key = a ∧ underlying then seized.counted else 0
  | marginLiquidation _ debtAsset _ repaid _ _ => if debtAsset.key = a then repaid.counted else 0
  | _ => 0

/-- Every figure of money that was moved in a reserve is whole. -/
def Exact : Content → Prop
  | liquidation _ _ _ repaid seized _ _ =>
    repaid = .whole repaid.counted ∧ seized = .whole seized.counted
  | marginLiquidation _ _ _ repaid _ _ => repaid = .whole repaid.counted
  | _ => True

def choice? (user : Key) : Content → Option Bool
  | marginUsage chooser enabled => if chooser.key = user then some enabled else none
  | _ => none

def debit? : Content → Option DebitInstruction
  | marginLiquidation user _ collateralAsset _ seized destination =>
    some ⟨user, collateralAsset, seized, destination⟩
  | _ => none

attribute [simp] Exact debit?

end PoolEvent.Content

def Disclosed.record (d : Disclosed) : PoolEvent.Content → Disclosed
  | .deposit asset _ amount => d.receive asset amount
  | .withdraw asset _ _ amount => d.receive asset (-amount)
  | .borrow asset _ amount _ _ => d.receive asset (-amount)
  | .repay asset _ amount _ => d.receive asset amount
  | .liquidation collateralAsset debtAsset _ repaid seized _ underlying =>
    (d.receive debtAsset repaid.counted).receive collateralAsset
      (if underlying then -seized.counted else 0)
  | .marginLiquidation _ debtAsset _ repaid _ _ => d.receive debtAsset repaid.counted
  | .marginUsage user enabled => d.choose user enabled
  | .collateralEnabled _ _ | .collateralDisabled _ _ => d

namespace Disclosed

open PoolEvent

variable (d : Disclosed) (c : Content) (cs : List Content)

theorem money_record (a : Key) : (d.record c).money a = d.money a + c.inflow a := by
  cases c <;> simp only [record, receive, choose, Content.inflow, eq_comm (a := a), Int.add_zero]
  case liquidation collateralAsset debtAsset _ _ _ _ underlying =>
    cases underlying with
    | false => simp
    | true => by_cases h : collateralAsset.key = a <;> simp [h, Int.add_assoc, Int.sub_eq_add_neg]

theorem optedIn_record (u : Key) :
    (d.record c).optedIn u = (c.choice? u).getD (d.optedIn u) := by
  cases c <;> simp only [record, receive, choose, Content.choice?, Option.getD_none]
  case marginUsage user enabled =>
    by_cases h : u = user.key
    · simp [h]
    · simp [h, Ne.symm h]

theorem money_foldl (a : Key) :
    (cs.foldl record d).money a = d.money a + (cs.map (·.inflow a)).sum := by
  induction cs generalizing d with
  | nil => simp
  | cons c rest ih =>
    rw [List.foldl_cons, ih, money_record, List.map_cons, List.sum_cons, Int.add_assoc]

theorem optedIn_foldl (u : Key) :
    (cs.foldl record d).optedIn u = ((cs.filterMap (·.choice? u)).getLast?).getD (d.optedIn u) := by
  induction cs using List.reverseRecOn with
  | nil => rfl
  | append_singleton rest c ih =>
    rw [List.foldl_append, List.foldl_cons, List.foldl_nil, optedIn_record, ih, List.filterMap_append]
    cases hc : c.choice? u <;> simp [List.filterMap, hc]

end Disclosed

namespace Pool

open MoneyMarket.FixedPoint MoneyMarket.Ledger MoneyMarket.LedgerWork MoneyMarket.Reserve

variable {p q : Pool} {op : Operation} {l m : Ledger} {asset user : Name} {amount : Int}

/-! ## Receipts -/

/-- A receipt says what the work between two ledgers has done, and so does the settlement on it. -/
structure Receipt.Tells {α : Type} (receipt : Receipt α) (s : Settlement) (l m : Ledger) : Prop where
  disclosed : m.disclosed = receipt.contents.foldl Disclosed.record l.disclosed
  covered : ∀ a, 0 ≤ l.disclosed.money a → 0 ≤ m.disclosed.money a
  exact : ∀ c ∈ receipt.contents, c.Exact
  instructed : (receipt.settlement.getD s).instructions =
    s.instructions ++ receipt.contents.filterMap (·.debit?)

theorem tells_of_brings {α : Type} {value : α} {contents : List PoolEvent.Content} {s : Settlement}
    {a : Key} (h : Brings a amount l m)
    (hrecord : contents.foldl Disclosed.record l.disclosed = l.disclosed.receive a amount)
    (hplain : ∀ c ∈ contents, c.Exact ∧ c.debit? = none) :
    Receipt.Tells { value, contents } s l m := by
  have hnone : contents.filterMap (·.debit?) = [] :=
    List.filterMap_eq_nil_iff.2 fun c hc => (hplain c hc).2
  refine ⟨h.disclosed.trans hrecord.symm, fun _ => h.covers, fun c hc => (hplain c hc).1, ?_⟩
  rw [hnone, List.append_nil]
  rfl

theorem depositing_tells {receipt : Receipt Unit}
    (h : p.depositing asset amount user l = .ok receipt m) (s : Settlement) :
    receipt.Tells s l m := by
  obtain ⟨_, first, hbook, rfl⟩ := depositing_completed h
  apply tells_of_brings (bookDeposit_brings hbook)
  · cases first <;> rfl
  · cases first <;> simp

theorem withdrawing_tells {recipient : Option Name} {receipt : Receipt Int}
    (h : p.withdrawing asset amount user recipient l = .ok receipt m) (s : Settlement) :
    receipt.Tells s l m := by
  obtain ⟨taken, l₁, emptied, _, hbook, _, rfl, _, rfl⟩ := withdrawing_completed h
  have hbrings := bookWithdrawal_brings hbook
  have hswitched : Brings asset (-taken) l (if emptied then
      l₁.modifyPosition user asset fun pos => { pos with usedAsCollateral := false } else l₁) := by
    cases emptied
    · exact hbrings
    · exact ⟨hbrings.disclosed, hbrings.covered⟩
  apply tells_of_brings hswitched
  · cases emptied <;> rfl
  · cases emptied <;> simp

theorem borrowing_tells {mode : RateMode} {receipt : Receipt Unit}
    (h : p.borrowing asset amount mode user l = .ok receipt m) (s : Settlement) :
    receipt.Tells s l m := by
  obtain ⟨_, rate, hbook, _, rfl⟩ := borrowing_completed h
  have hbrings := bookLoan_brings hbook
  have hopened : Brings asset (-amount) l m := ⟨hbrings.disclosed, hbrings.covered⟩
  apply tells_of_brings hopened
  · rfl
  · simp

theorem repaying_tells {mode : RateMode} {receipt : Receipt Int}
    (h : p.repaying asset amount mode user l = .ok receipt m) (s : Settlement) :
    receipt.Tells s l m := by
  obtain ⟨paid, _, hbook, rfl⟩ := repaying_completed h
  apply tells_of_brings (bookRepayment_brings hbook)
  · rfl
  · simp

theorem switchingCollateral_tells {enabled : Bool} {receipt : Receipt Unit}
    (h : p.switchingCollateral user asset enabled l = .ok receipt m) (s : Settlement) :
    receipt.Tells s l m := by
  obtain ⟨_, rfl, _, rfl⟩ := switchingCollateral_completed h
  constructor <;> cases enabled <;>
    simp [collateralSwitched, Disclosed.record, modifyPosition, disclosed_setPosition]

theorem switchingMargin_tells {enabled : Bool} {receipt : Receipt Unit}
    (h : p.switchingMargin user enabled l = .ok receipt m) (s : Settlement) :
    receipt.Tells s l m := by
  obtain ⟨_, rfl, rfl⟩ := switchingMargin_completed h
  refine ⟨disclosed_setUsesMargin _ _ _, fun _ => id, ?_, ?_⟩
  · simp
  · simp

/-- Both reserves may be the same: what comes in pays the debt, and what goes out is the collateral. -/
theorem liquidating_tells {c : LiquidationCall} {receipt : Receipt LiquidationResult}
    (h : p.liquidating c l = .ok receipt m) (s : Settlement) : receipt.Tells s l m := by
  obtain ⟨result, hwork, rfl⟩ := liquidating_completed h
  obtain ⟨_, repaid, seized, l₁, hrepaid, hseized, hsettle, hmove⟩ := liquidate_completed hwork
  rw [Quantity.booked_ok_iff] at hrepaid hseized
  have hsettled := settleDebt_brings hsettle
  have hmoved := moveCollateral_brings hmove
  constructor
  · rw [hmoved.disclosed, hsettled.disclosed]
    simp [Disclosed.record, hrepaid, hseized, Quantity.counted]
  · intro a ha
    exact hmoved.covers (hsettled.covers ha)
  · simp [hrepaid, hseized, Quantity.counted]
  · simp

theorem submit_instructions {i : DebitInstruction} {s : Settlement}
    (h : p.submit p.settlement.submit (some i) = .ok s) :
    s.instructions = p.settlement.instructions ++ [i] := by
  unfold submit Settlement.submit at h
  dsimp only at h
  split at h <;> cases h
  rfl

theorem settleMargin_tells {request : MarginRequest} {receipt : Receipt LiquidationResult}
    (h : p.settleMargin p.settlement.submit request l = .ok receipt m) :
    receipt.Tells p.settlement l m := by
  obtain ⟨result, settlement, hwork, hsubmit, rfl⟩ := settleMargin_completed h
  obtain ⟨hplan, repaid, hrepaid, hsettle⟩ := liquidateMargin_completed hwork
  rw [Quantity.booked_ok_iff] at hrepaid
  have hsettled := settleDebt_brings hsettle
  have hinstruction := (planMarginLiquidation_debit hplan).1
  constructor
  · rw [hsettled.disclosed]
    simp [Disclosed.record, hrepaid, Quantity.counted, MarginRequest.routed]
  · intro a ha
    exact hsettled.covers ha
  · simp [hrepaid, Quantity.counted]
  · rw [hinstruction] at hsubmit
    exact submit_instructions hsubmit

/-! ## Commits -/

theorem Receipt.Tells.answer {α : Type} {receipt : Receipt α} {s : Settlement}
    (h : receipt.Tells s l m) (f : α → Outcome) : (receipt.answer f).Tells s l m :=
  ⟨h.disclosed, h.covered, h.exact, h.instructed⟩

theorem transaction_tells {work : LedgerWork (Receipt Outcome)} {receipt : Receipt Outcome}
    (htx : p.transaction? op = some work) (hw : work p.ledger = .ok receipt m) :
    receipt.Tells p.settlement p.ledger m := by
  cases transaction_completes htx hw with
  | deposit h => exact (depositing_tells h _).answer _
  | withdraw h => exact (withdrawing_tells h _).answer _
  | borrow h => exact (borrowing_tells h _).answer _
  | repay h => exact (repaying_tells h _).answer _
  | setUsageAsCollateral h => exact (switchingCollateral_tells h _).answer _
  | setUsingMargin h => exact (switchingMargin_tells h _).answer _
  | liquidate h => exact (liquidating_tells h _).answer _
  | liquidateMargin h => exact (settleMargin_tells h).answer _

theorem disclosed_creditTreasury (treasury : Key) (l : Ledger) :
    (creditTreasury treasury l).disclosed = l.disclosed := by
  ext u
  · exact owed_creditTreasury (fun _ => rfl) treasury l u
  · show (creditTreasury treasury l).marginUsers.contains u = l.marginUsers.contains u
    have husers : (creditTreasury treasury l).marginUsers = l.marginUsers := by
      unfold creditTreasury
      generalize l.reserves.keys = keys
      induction keys generalizing l with
      | nil => rfl
      | cons a rest ih =>
        rw [List.foldl_cons, ih]
        unfold creditTreasuryIn
        split
        · rfl
        · split <;> rfl
    rw [husers]

/-- The events give the disclosed part of the ledger, and the counterparty's record. -/
structure Journaled (p : Pool) : Prop where
  disclosed : p.ledger.disclosed =
    (p.events.map (·.content)).foldl Disclosed.record ⟨fun _ => 0, fun _ => false⟩
  covered : ∀ a, 0 ≤ p.ledger.disclosed.money a
  exact : ∀ e ∈ p.events, e.content.Exact
  instructed : p.settlement.instructions = p.events.filterMap (·.content.debit?)

theorem Journaled.commit {α : Type} {receipt : Receipt α} (h : Journaled p)
    (htells : receipt.Tells p.settlement p.ledger m) : Journaled (p.commit m receipt) := by
  constructor
  · show (creditTreasury _ m).disclosed = _
    rw [disclosed_creditTreasury, htells.disclosed, h.disclosed]
    simp [Pool.commit, event, Function.comp_def]
  · intro a
    show 0 ≤ (creditTreasury _ m).disclosed.money a
    rw [disclosed_creditTreasury]
    exact htells.covered a (h.covered a)
  · intro e he
    simp only [Pool.commit, List.mem_append, List.mem_map] at he
    rcases he with he | ⟨c, hc, rfl⟩
    · exact h.exact e he
    · exact htells.exact c hc
  · show (receipt.settlement.getD p.settlement).instructions = _
    rw [htells.instructed, h.instructed]
    simp [Pool.commit, event, List.filterMap_map, Function.comp_def]

/-! ## Administration -/

/-- Nothing is published, nobody is instructed, and what is known of margin accounts stands. -/
structure Silent (p q : Pool) : Prop where
  events : q.events = p.events
  instructions : q.settlement.instructions = p.settlement.instructions
  params : q.params = p.params
  feed : q.feed = p.feed

theorem after_pushMargin (p : Pool) (report : MarginReport) (sequence : Int) :
    p.after (.pushMargin user report sequence) = { p with
      feed := match p.feed.push user report sequence with
        | .ok (feed, _) => feed
        | .error _ => p.feed } := by
  show (p.change ((p.pushMargin user report sequence).map fun r =>
    (r.1, Outcome.stored r.2))).1 = _
  unfold pushMargin
  cases p.feed.push user report sequence <;> rfl

/-- All administration is silent but for a report on a margin account. -/
theorem after_silent (htx : p.transaction? op = none) : Silent p (p.after op) ∨
    ∃ user report sequence, op = .pushMargin user report sequence := by
  have h := after_administers htx
  generalize p.after op = q at h ⊢
  cases h with
  | unchanged | set | flagged | governed => exact .inl ⟨rfl, rfl, rfl, rfl⟩
  | reported => exact .inr ⟨_, _, _, rfl⟩
  | listed h =>
    obtain ⟨_, _, _, rfl⟩ := initReserve_ok h
    exact .inl ⟨rfl, rfl, rfl, rfl⟩

theorem Administered.disclosed (h : Administered p q) : q.ledger.disclosed = p.ledger.disclosed := by
  cases h with
  | same hledger => rw [hledger]
  | @edited a r s hr h =>
    have hs : s.availableLiquidity = r.availableLiquidity + 0 := by
      rw [h]
      exact (Int.add_zero _).symm
    rw [← (p.ledger.disclosed).receive_zero a]
    exact disclosed_setReserve hr hs
  | @listed config strategy q h =>
    obtain ⟨hnew, r, hr, rfl⟩ := initReserve_ok h
    have hnothing : r.availableLiquidity = 0 := (accrue_accrued hr).availableLiquidity
    ext a
    · show (p.ledger.setReserve config.symbol r).owed _ a = p.ledger.owed _ a
      rw [owed_setReserve, hnothing]
      split
      · rename_i ha
        rw [ha, owed, hnew]
        rfl
      · rfl
    · rfl

theorem record_administered (htx : p.transaction? op = none) : (p.after op).events = p.events ∧
    (p.after op).settlement.instructions = p.settlement.instructions := by
  rcases after_silent htx with hsilent | ⟨user, report, sequence, rfl⟩
  · exact ⟨hsilent.events, hsilent.instructions⟩
  · rw [after_pushMargin]
    exact ⟨rfl, rfl⟩

theorem Journaled.administered (h : Journaled p) (htx : p.transaction? op = none) :
    Journaled (p.after op) := by
  have hdisclosed := (after_administered htx).disclosed
  obtain ⟨hevents, hinstructions⟩ := record_administered htx
  constructor
  · rw [hdisclosed, hevents]
    exact h.disclosed
  · rw [hdisclosed]
    exact h.covered
  · rw [hevents]
    exact h.exact
  · rw [hinstructions, hevents]
    exact h.instructed

/-! ## All pools -/

theorem after_journaled (h : Journaled p) (op : Operation) : Journaled (p.after op) := by
  cases htx : p.transaction? op with
  | none => exact h.administered htx
  | some work =>
    rcases after_transaction htx with hsame | ⟨receipt, m, hw, _, hcommit⟩
    · rwa [hsame]
    · rw [hcommit]
      exact h.commit (transaction_tells htx hw)

theorem Attainable.journaled (h : Attainable p) : Journaled p := by
  apply h.induct
  · intro params clock
    refine ⟨rfl, fun _ => Int.le_refl 0, ?_, rfl⟩
    intro e he
    cases he
  · intro q op hq
    exact after_journaled hq op

/-- **The journal.** The money of every reserve is what the events say came in less what went out,
all of it in whole figures, and never less than nothing. An account has opted in if the last choice
that is published of it was to do so. -/
theorem journal_reconciles (h : Reachable p) :
    (∀ asset r, p.ledger.reserve? asset = some r →
      r.availableLiquidity = (p.events.map fun e => e.content.inflow asset).sum ∧
      0 ≤ r.availableLiquidity) ∧
    (∀ e ∈ p.events, e.content.Exact) ∧
    ∀ user, p.ledger.usesMargin user = true ↔
      (p.events.filterMap fun e => e.content.choice? user).getLast? = some true := by
  have hjournal := h.attainable.journaled
  refine ⟨?_, hjournal.exact, ?_⟩
  · intro asset r hr
    have hmoney : p.ledger.disclosed.money asset = r.availableLiquidity := owed_eq hr
    have hcovered := hjournal.covered asset
    have hsum := congrFun (congrArg Disclosed.money hjournal.disclosed) asset
    rw [Disclosed.money_foldl, hmoney, Int.zero_add, List.map_map] at hsum
    exact ⟨hsum, hmoney ▸ hcovered⟩
  · intro user
    have hlast := congrFun (congrArg Disclosed.optedIn hjournal.disclosed) user
    rw [Disclosed.optedIn_foldl, List.filterMap_map] at hlast
    have husers : p.ledger.usesMargin user =
        ((p.events.filterMap fun e => e.content.choice? user).getLast?).getD false := hlast
    rw [husers]
    cases (p.events.filterMap fun e => e.content.choice? user).getLast? <;> simp

def marginCall : MarginRequest where
  borrower := .text "ana"
  debtToCover := 40
  debtAsset := .text "WETH"
  collateralAsset := .text "WETH"
  maxCollateral := 1000

def audited : List Operation :=
  [.initReserve .dai (.kinked .stableTwo),
    .initReserve .weth (.kinked .weth),
    .setPrice (.text "DAI") (.whole wad),
    .setPrice (.text "WETH") (.whole wad),
    .deposit (.text "WETH") 10000 (.text "carol"),
    .deposit (.text "DAI") 1000 (.text "ana"),
    .pushMargin (.text "ana") { collateral := .whole 100 } 1,
    .setUsingMargin (.text "ana") true,
    .borrow (.text "WETH") 800 2 (.text "ana"),
    .repay (.text "WETH") 50 2 (.text "ana"),
    .withdraw (.text "WETH") 2000 (.text "carol") none,
    .setPrice (.text "WETH") (.whole 1400000000000000000),
    .liquidate {
      collateralAsset := .text "DAI", debtAsset := .text "WETH", borrower := .text "ana"
      debtToCover := 100, liquidator := .text "dan", receiveUnderlying := true },
    .liquidateMargin (.text "fundlock") marginCall]

/-- Ten events give what is left in either reserve, and that ana has opted in. -/
theorem journal_of_two_liquidations :
    let p := run {} audited
    p.ledger.owed Reserve.availableLiquidity (.text "WETH") =
        ([0, 10000, 0, 0, 0, -800, 50, -2000, 100, 40] : List Int).sum ∧
      p.ledger.owed Reserve.availableLiquidity (.text "DAI") =
        ([0, 0, 0, 1000, 0, 0, 0, 0, -147, 0] : List Int).sum ∧
      p.ledger.usesMargin (.text "ana") = true := by
  intro p
  have hreachable : Reachable p := ⟨⟨{}, 0, audited, rfl⟩, by decide +kernel⟩
  obtain ⟨hmoney, -, hopted⟩ := journal_reconciles hreachable
  have hweth : (p.events.map fun e => e.content.inflow (.text "WETH")) =
    [0, 10000, 0, 0, 0, -800, 50, -2000, 100, 40] := by decide +kernel
  have hdai : (p.events.map fun e => e.content.inflow (.text "DAI")) =
    [0, 0, 0, 1000, 0, 0, 0, 0, -147, 0] := by decide +kernel
  refine ⟨?_, ?_, (hopted _).2 (by decide +kernel)⟩
  · obtain ⟨r, hr⟩ := Option.isSome_iff_exists.1
      (by decide +kernel : (p.ledger.reserve? (.text "WETH")).isSome)
    rw [owed_eq hr, (hmoney _ r hr).1, hweth]
  · obtain ⟨r, hr⟩ := Option.isSome_iff_exists.1
      (by decide +kernel : (p.ledger.reserve? (.text "DAI")).isSome)
    rw [owed_eq hr, (hmoney _ r hr).1, hdai]

end Pool

end MoneyMarket
