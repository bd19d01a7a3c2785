import MoneyMarket.Proofs.Ledger.Locality
import MoneyMarket.Proofs.Pool.Atomicity
import MoneyMarket.Proofs.Pool.Deposit

/-!
# Independent operations

An operation for one account in one asset reads what this account can see, and writes to one reserve
and to the positions of the account and of the treasury in it. Two such operations for different
accounts in different assets do not notice each other: in either order each gives the same answer or
fault, and the same records are left.
-/

namespace MoneyMarket

namespace Ledger

/-! ## Records -/

/-- Every user on record has a position. -/
def Populated (l : Ledger) : Prop :=
  ∀ u, l.positions.contains u → ∃ a, (l.position? u a).isSome

variable {loans : Prop} {l m : Ledger}

theorem Populated.contains_iff (hl : Populated l) (u : Key) :
    l.positions.contains u ↔ ∃ a, (l.position? u a).isSome :=
  ⟨hl u, fun ⟨_, h⟩ => contains_of_position? h⟩

theorem Populated.setPosition (hl : Populated l) (u a : Key) (p : Position) :
    Populated (l.setPosition u a p) := by
  intro v hv
  by_cases hvu : v = u
  · exact ⟨a, by simp [hvu]⟩
  · have hcontains : l.positions.contains v := by
      simpa [Ledger.setPosition, Table.contains, hvu] using hv
    obtain ⟨b, hb⟩ := hl v hcontains
    exact ⟨b, by simpa [hvu] using hb⟩

theorem Step.populated (h : Step loans l m) (hl : Populated l) : Populated m := by
  cases h with
  | accrue | money | average | switchMargin => exact hl
  | @move user asset r rp =>
    have hopen : Populated (l.openPosition user asset) := hl.setPosition _ _ _
    exact hopen.setPosition (l := (l.openPosition user asset).setReserve asset rp.1) _ _ _
  | handOver => exact (hl.setPosition _ _ _).setPosition _ _ _
  | credit | openPosition | switch => exact hl.setPosition _ _ _

theorem Evolves.populated (h : Evolves loans l m) (hl : Populated l) : Populated m := by
  cases h with
  | same | edit | list => exact hl
  | @commit n h treasury =>
    have hpaid : Steps loans n _ := Pool.creditTreasury_steps treasury n
    have hsteps : Steps loans l _ := h.trans hpaid
    exact hsteps.preserves (fun hstep hl => hstep.populated hl) hl

theorem sameRecords_of_positions (hl : Populated l) (hm : Populated m)
    (hreserves : ∀ a, m.reserve? a = l.reserve? a)
    (hpositions : ∀ u a, m.position? u a = l.position? u a)
    (hmargin : m.marginUsers = l.marginUsers) : SameRecords l m := by
  refine ⟨hreserves, ?_, hpositions, ?_⟩
  · intro u
    rw [Bool.eq_iff_iff, hl.contains_iff, hm.contains_iff]
    simp only [hpositions]
  · intro u
    unfold usesMargin
    rw [hmargin]

end Ledger

namespace Pool

open MoneyMarket.Ledger MoneyMarket.LedgerWork

variable {p q : Pool} {user asset : Name} {u v a b : Key} {op : Operation}

theorem Attainable.populated (h : Attainable p) : Populated p.ledger := by
  apply h.induct
  · intro _ _ u hu
    cases hu
  · intro q op hq
    exact (after_onward q op).ledger.populated hq

/-! ## Work of one account in one asset -/

section Local

variable {l l' : Ledger}

theorem requireHealthy_congr (h : Agree p.clock user a l l') (action : String) :
    p.requireHealthy l' user action = p.requireHealthy l user action := by
  unfold requireHealthy
  rw [h.account.solvency]

theorem depositing_local (amount : Int) :
    Local p.clock user asset (p.depositing asset amount user) := by
  have hbook : Local p.clock user asset (bookDeposit asset amount user p.clock) := by
    unfold bookDeposit
    apply (accrue_local _).andThen
    intro _
    apply Local.look fun l l' h => h.position asset
    intro _
    apply (money_local _).andThen
    intro _
    apply (book_local (b := .mintSupply user amount) rfl).andThen
    intro _
    dsimp only
    split
    · exact (setUsedAsCollateral_local true).andThen fun _ =>
        (accrue_local _).andThen fun _ => .done _
    · exact (accrue_local _).andThen fun _ => .done _
  unfold depositing
  refine Local.check (fun l l' h => ?_) fun _ => hbook.andThen fun _ => .done _
  unfold admitDeposit
  rw [h.reserve]

theorem withdrawing_local (amount : Int) (recipient : Option Name) :
    Local p.clock user asset (p.withdrawing asset amount user recipient) := by
  have hbook (taken : Int) : Local p.clock user asset (bookWithdrawal asset taken user p.clock) := by
    unfold bookWithdrawal
    apply (accrue_local _).andThen
    intro _
    apply (book_local (b := .burnSupply user taken) rfl).andThen
    intro _
    exact (money_local _).andThen fun _ => accrue_local _
  have hend (wasCollateral : Bool) (receipt : Receipt Int) : Local p.clock user asset (do
      if wasCollateral then p.requireHealthy (← get) user "withdraw"
      return receipt) := by
    split
    · exact Local.check (fun _ _ h => requireHealthy_congr h _) fun _ => .done _
    · exact .done _
  unfold withdrawing
  refine Local.check (fun l l' h => ?_) fun taken => ?_
  · unfold admitWithdrawal
    simp only [h.reserve, h.supplyOf]
  apply Local.look fun l l' h => h.position asset
  intro _
  apply (hbook taken).andThen
  intro _
  apply Local.look fun l l' h => h.position asset
  intro _
  dsimp only
  split
  · exact (setUsedAsCollateral_local false).andThen fun _ => hend _ _
  · exact hend _ _

theorem borrowing_local (amount : Int) (mode : RateMode) :
    Local p.clock user asset (p.borrowing asset amount mode user) := by
  have hmint (rate : Int) : (mintBooking mode user amount rate p.clock).OwnedBy user := by
    cases mode <;> exact rfl
  have hbook : Local p.clock user asset (bookLoan asset amount mode user p.clock) := by
    unfold bookLoan
    apply (accrue_local _).andThen
    intro _
    refine Local.check (fun l l' h => h.reserve) fun r => ?_
    apply (book_local (hmint _)).andThen
    intro _
    apply (money_local _).andThen
    intro _
    exact (accrue_local _).andThen fun _ => .done _
  have hend : Local p.clock user asset (do
      let rate ← bookLoan asset amount mode user p.clock
      p.requireHealthy (← get) user "borrow"
      return ({ value := (), contents := [.borrow asset user amount mode rate] } : Receipt Unit)) :=
    hbook.andThen fun _ => Local.check (fun _ _ h => requireHealthy_congr h _) fun _ => .done _
  unfold borrowing
  refine Local.check (fun l l' h => ?_) fun _ => ?_
  · unfold admitBorrow
    simp only [h.reserve, h.account.solvency]
  apply openPosition_local.andThen
  intro _
  dsimp only
  split
  · refine Local.check (fun l l' h => h.reserve) fun r => ?_
    apply Local.look fun l l' h => h.position asset
    intro pos
    exact (Local.lift _).andThen fun _ => hend
  · exact hend

theorem repaying_local (amount : Int) (mode : RateMode) :
    Local p.clock user asset (p.repaying asset amount mode user) := by
  have hburn (paid : Int) : (burnBooking mode user paid p.clock).OwnedBy user := by
    cases mode <;> exact rfl
  have hbook (paid : Int) :
      Local p.clock user asset (bookRepayment asset paid mode user p.clock) := by
    unfold bookRepayment
    apply (accrue_local _).andThen
    intro _
    apply (book_local (hburn paid)).andThen
    intro _
    exact (money_local _).andThen fun _ => accrue_local _
  unfold repaying
  refine Local.check (fun l l' h => ?_) fun paid => (hbook paid).andThen fun _ => .done _
  unfold admitRepayment
  rw [h.reserve, h.account.position?]

theorem switchingCollateral_local (enabled : Bool) :
    Local p.clock user asset (p.switchingCollateral user asset enabled) := by
  unfold switchingCollateral
  refine Local.check (fun l l' h => ?_) fun _ => ?_
  · unfold admitCollateralSwitch
    simp only [h.reserve, h.supplyOf]
  apply (setUsedAsCollateral_local enabled).andThen
  intro _
  dsimp only
  split
  · exact Local.check (fun _ _ h => requireHealthy_congr h _) fun _ => .done _
  · exact .done _

end Local

/-! ## One operation -/

/-- The operation is one of the five on a single reserve, for that account and that asset. -/
def Operation.Concerns (u a : Key) : Operation → Prop
  | .deposit asset _ user | .withdraw asset _ user _ => user.key = u ∧ asset.key = a
  | .borrow asset _ _ user | .repay asset _ _ user => user.key = u ∧ asset.key = a
  | .setUsageAsCollateral user asset _ => user.key = u ∧ asset.key = a
  | _ => False

theorem Operation.Concerns.accounts (h : op.Concerns u a) : op.accounts = [u] := by
  cases op <;> simp_all [Operation.Concerns, Operation.accounts]

def SamePool (p q : Pool) : Prop :=
  ∃ ledger events settlement, q = { p with ledger, events, settlement }

theorem transaction?_local (hop : op.Concerns u a) (hq : SamePool p q)
    (h : Agree p.clock u a p.ledger q.ledger) : ∃ work, p.transaction? op = some work ∧
      q.transaction? op = some work ∧ Local p.clock u a work := by
  obtain ⟨ledger, events, settlement, rfl⟩ := hq
  have hmode {asset : Name} (hasset : asset.key = a) (number : Int) :
      requireMode { p with ledger, events, settlement } asset number =
        p.requireMode asset number := by
    subst hasset
    unfold requireMode
    dsimp only
    rw [h.reserve]
  cases op <;> simp only [Operation.Concerns] at hop
  case deposit asset amount user =>
    obtain ⟨rfl, rfl⟩ := hop
    exact ⟨_, rfl, rfl, (depositing_local amount).map _⟩
  case withdraw asset amount user recipient =>
    obtain ⟨rfl, rfl⟩ := hop
    exact ⟨_, rfl, rfl, (withdrawing_local amount recipient).map _⟩
  case borrow asset amount number user =>
    obtain ⟨rfl, rfl⟩ := hop
    refine ⟨_, rfl, ?_, (Local.lift _).andThen fun mode => (borrowing_local amount mode).map _⟩
    simp only [transaction?, hmode rfl]
    rfl
  case repay asset amount number user =>
    obtain ⟨rfl, rfl⟩ := hop
    refine ⟨_, rfl, ?_, (Local.lift _).andThen fun mode => (repaying_local amount mode).map _⟩
    simp only [transaction?, hmode rfl]
    rfl
  case setUsageAsCollateral user asset enabled =>
    obtain ⟨rfl, rfl⟩ := hop
    exact ⟨_, rfl, rfl, (switchingCollateral_local enabled).map _⟩

theorem SamePool.refl (p : Pool) : SamePool p p := ⟨_, _, _, rfl⟩

theorem after_samePool {work : LedgerWork (Receipt Outcome)} (htx : p.transaction? op = some work) :
    SamePool p (p.after op) := by
  rcases after_transaction htx with h | ⟨_, _, _, _, h⟩ <;> rw [h]
  · exact .refl p
  · exact ⟨_, _, _, rfl⟩

theorem perform_done {work : LedgerWork (Receipt Outcome)} (htx : p.transaction? op = some work)
    {receipt : Receipt Outcome} {l : Ledger} (hw : work p.ledger = .ok receipt l) :
    p.perform op = (p.commit l receipt, .ok receipt.value) := by
  rw [perform_transaction htx]
  unfold transact atomically
  rw [hw]

theorem perform_failed {work : LedgerWork (Receipt Outcome)} (htx : p.transaction? op = some work)
    {f : Fault} {l : Ledger} (hw : work p.ledger = .error f l) : p.perform op = (p, .error f) := by
  have hfault : (p.perform op).2 = .error f := by
    rw [perform_transaction htx]
    unfold transact atomically
    rw [hw]
  exact Prod.ext (perform_error_eq hfault) hfault

section Commit

variable {treasury : Key} {l m : Ledger}

theorem creditTreasuryIn_confined (hl : Sound l) :
    Confined (· = treasury) a l (creditTreasuryIn treasury l a) := by
  unfold creditTreasuryIn
  split
  · exact .refl l
  · rename_i r hr
    split
    · exact .refl l
    · rw [← hl.key a r hr]
      exact ((Confined.refl l).setOwn _).setReserve _

theorem creditTreasuryIn_position? (hl : Sound l) (hreserve : m.reserve? a = l.reserve? a)
    (hposition : m.position? treasury a = l.position? treasury a) :
    (creditTreasuryIn treasury m a).position? treasury a =
      (creditTreasuryIn treasury l a).position? treasury a := by
  unfold creditTreasuryIn
  rw [hreserve]
  split
  · exact hposition
  · rename_i r hr
    split
    · exact hposition
    · have hkey := hl.key a r hr
      subst hkey
      simp [modifyPosition, Ledger.position, hposition]

theorem commit_ledger {users : Key → Prop} (hp : Settled p.ledger) (hm : Confined users a p.ledger m)
    (receipt : Receipt Outcome) :
    (p.commit m receipt).ledger = creditTreasuryIn (.text p.params.treasury) m a := by
  apply creditTreasury_of_settled
  intro b r hb hr
  rw [hm.reserves b hb] at hr
  exact hp b r hr

end Commit

theorem transaction_sound (hp : Attainable p) {work : LedgerWork (Receipt Outcome)}
    (htx : p.transaction? op = some work) {receipt : Receipt Outcome} {m : Ledger}
    (hw : work p.ledger = .ok receipt m) : Sound m := by
  have hsteps := within_transaction htx p.ledger
  unfold outcome at hsteps
  rw [hw] at hsteps
  exact hsteps.sound hp.balanced.sound

theorem after_confined (hp : Attainable p) (hop : op.Concerns u a) :
    Confined (fun w => w = u ∨ w = .text p.params.treasury) a p.ledger (p.after op).ledger := by
  have hsame : Agree p.clock u a p.ledger p.ledger := ⟨rfl, .refl _⟩
  obtain ⟨work, htx, -, hlocal⟩ := transaction?_local hop (.refl p) hsame
  rcases after_transaction htx with h | ⟨receipt, m, hw, hturns, h⟩ <;> rw [h]
  · exact .refl _
  · have hends := hlocal _ _ hsame
    rw [hw] at hends
    cases hends with
    | ok _ hm =>
      rw [commit_ledger hp.settled hm]
      have hsound := transaction_sound hp htx hw
      exact (hm.mono fun _ => .inl).trans ((creditTreasuryIn_confined hsound).mono fun _ => .inr)

theorem perform_local (hp : Attainable p) (hq : Attainable q) (hpq : SamePool p q)
    (hop : op.Concerns u a) (hu : u ≠ .text p.params.treasury)
    (hagree : Agree p.clock u a p.ledger q.ledger)
    (htreasury : q.ledger.position? (.text p.params.treasury) a =
      p.ledger.position? (.text p.params.treasury) a) :
    (q.perform op).2 = (p.perform op).2 ∧
    (q.after op).ledger.reserve? a = (p.after op).ledger.reserve? a ∧
    ∀ w, w = u ∨ w = .text p.params.treasury →
      (q.after op).ledger.position? w a = (p.after op).ledger.position? w a := by
  obtain ⟨work, htx, htx', hlocal⟩ := transaction?_local hop hpq hagree
  have hparams : q.params = p.params := by
    obtain ⟨_, _, _, rfl⟩ := hpq
    rfl
  have hends := hlocal _ _ hagree
  unfold after
  cases hw : work p.ledger <;> cases hw' : work q.ledger <;> rw [hw, hw'] at hends <;> cases hends
  case error.error =>
    rw [perform_failed htx hw, perform_failed htx' hw']
    refine ⟨rfl, hagree.reserve?, ?_⟩
    rintro w (rfl | rfl)
    · exact hagree.account.position? a
    · exact htreasury
  -- both ledgers credit the treasury in this reserve only, and its position there is the same
  case ok.ok receipt m m' hm hm' hagree' =>
    have hsound := transaction_sound hp htx hw
    have hsound' := transaction_sound hq htx' hw'
    rw [perform_done htx hw, perform_done htx' hw']
    dsimp only
    rw [commit_ledger hp.settled hm, commit_ledger hq.settled hm', hparams]
    refine ⟨rfl, ?_, ?_⟩
    · rw [reserve?_creditTreasuryIn, reserve?_creditTreasuryIn, hagree'.reserve?]
    · rintro w (rfl | rfl)
      · have hother : ¬ (w = .text p.params.treasury ∧ a = a) := fun h => hu h.1
        rw [(creditTreasuryIn_confined hsound).positions _ _ hother,
          (creditTreasuryIn_confined hsound').positions _ _ hother, hagree'.account.position?]
      · have hother : ¬ (Key.text p.params.treasury = u ∧ a = a) := fun h => hu h.1.symm
        apply creditTreasuryIn_position? hsound hagree'.reserve?
        rw [hm.positions _ _ hother, hm'.positions _ _ hother, htreasury]

/-! ## Two operations -/

section Independent

variable {op₁ op₂ : Operation}

/-- After an operation for another account in another asset, an operation does what it would have
done before it. -/
theorem perform_after (hp : Attainable p) (h₁ : op₁.Concerns u a) (h₂ : op₂.Concerns v b)
    (huv : u ≠ v) (hab : a ≠ b) (hu : u ≠ .text p.params.treasury) :
    ((p.after op₂).perform op₁).2 = (p.perform op₁).2 ∧
    ((p.after op₂).after op₁).ledger.reserve? a = (p.after op₁).ledger.reserve? a ∧
    ∀ w, w = u ∨ w = .text p.params.treasury →
      ((p.after op₂).after op₁).ledger.position? w a = (p.after op₁).ledger.position? w a := by
  have hconfined := after_confined hp h₂
  have haccounts := h₂.accounts
  obtain ⟨work, htx⟩ := transaction?_of_accounts (haccounts ▸ List.cons_ne_nil _ _) p
  have hother : u ∉ op₂.accounts := by simpa [haccounts] using huv
  have hagree : Agree p.clock u a p.ledger (p.after op₂).ledger :=
    ⟨hconfined.reserves a hab, after_sameFor hp.timely htx hother hu⟩
  exact perform_local hp (attainable_after hp op₂) (after_samePool htx) h₁ hu hagree
    (hconfined.positions _ _ fun h => hab h.2)

theorem either_order_here (hp : Attainable p) (h₁ : op₁.Concerns u a) (h₂ : op₂.Concerns v b)
    (huv : u ≠ v) (hab : a ≠ b) (hu : u ≠ .text p.params.treasury) :
    ((p.after op₂).after op₁).ledger.reserve? a = ((p.after op₁).after op₂).ledger.reserve? a ∧
    ∀ w, ((p.after op₂).after op₁).ledger.position? w a =
      ((p.after op₁).after op₂).ledger.position? w a := by
  have hsecond := after_confined (attainable_after hp op₁) h₂
  obtain ⟨-, hreserve, hpositions⟩ := perform_after hp h₁ h₂ huv hab hu
  refine ⟨hreserve.trans (hsecond.reserves a hab).symm, ?_⟩
  intro w
  rw [hsecond.positions w a fun h => hab h.2]
  by_cases hw : w = u ∨ w = .text p.params.treasury
  · exact hpositions w hw
  · -- neither operation writes to a position of this user in this asset
    obtain ⟨work, htx⟩ := transaction?_of_accounts (h₂.accounts ▸ List.cons_ne_nil _ _) p
    have hlast := after_confined (attainable_after hp op₂) h₁
    rw [params_after_transaction htx] at hlast
    rw [hlast.positions w a fun h => hw h.1, (after_confined hp h₂).positions w a fun h => hab h.2,
      (after_confined hp h₁).positions w a fun h => hw h.1]

theorem either_order_elsewhere (hp : Attainable p) (h₁ : op₁.Concerns u a) (h₂ : op₂.Concerns v b)
    {c : Key} (ha : c ≠ a) (hb : c ≠ b) :
    ((p.after op₂).after op₁).ledger.reserve? c = p.ledger.reserve? c ∧
    ∀ w, ((p.after op₂).after op₁).ledger.position? w c = p.ledger.position? w c := by
  have hfirst := after_confined hp h₂
  have hlast := after_confined (attainable_after hp op₂) h₁
  refine ⟨(hlast.reserves c ha).trans (hfirst.reserves c hb), ?_⟩
  intro w
  rw [hlast.positions w c fun h => ha h.2, hfirst.positions w c fun h => hb h.2]

/-- **Independence.** Two of the five operations on a single reserve, for different accounts in
different assets, give in both orders the same answers or faults, and they leave the same records. -/
theorem independent_operations_commute (h : Reachable p) (h₁ : op₁.Concerns u a)
    (h₂ : op₂.Concerns v b) (huv : u ≠ v) (hab : a ≠ b) (hu : u ≠ .text p.params.treasury)
    (hv : v ≠ .text p.params.treasury) :
    ((p.after op₂).perform op₁).2 = (p.perform op₁).2 ∧
    ((p.after op₁).perform op₂).2 = (p.perform op₂).2 ∧
    SameRecords ((p.after op₁).after op₂).ledger ((p.after op₂).after op₁).ledger := by
  have hp := h.attainable
  have hend := attainable_after (attainable_after hp op₁) op₂
  have hend' := attainable_after (attainable_after hp op₂) op₁
  have hrecords (c : Key) : ((p.after op₂).after op₁).ledger.reserve? c =
        ((p.after op₁).after op₂).ledger.reserve? c ∧
      ∀ w, ((p.after op₂).after op₁).ledger.position? w c =
        ((p.after op₁).after op₂).ledger.position? w c := by
    by_cases ha : c = a
    · exact ha ▸ either_order_here hp h₁ h₂ huv hab hu
    · by_cases hb : c = b
      · obtain ⟨hreserve, hpositions⟩ := either_order_here hp h₂ h₁ huv.symm hab.symm hv
        exact hb ▸ ⟨hreserve.symm, fun w => (hpositions w).symm⟩
      · obtain ⟨hreserve, hpositions⟩ := either_order_elsewhere hp h₁ h₂ ha hb
        obtain ⟨hreserve', hpositions'⟩ := either_order_elsewhere hp h₂ h₁ hb ha
        exact ⟨hreserve.trans hreserve'.symm, fun w => (hpositions w).trans (hpositions' w).symm⟩
  refine ⟨(perform_after hp h₁ h₂ huv hab hu).1,
    (perform_after hp h₂ h₁ huv.symm hab.symm hv).1, ?_⟩
  apply sameRecords_of_positions hend.populated hend'.populated
  · exact fun c => (hrecords c).1
  · exact fun w c => (hrecords c).2 w
  · rw [(after_confined (attainable_after hp op₂) h₁).margin, (after_confined hp h₂).margin,
      (after_confined (attainable_after hp op₁) h₂).margin, (after_confined hp h₁).margin]

def borrowedAcrossForAYear : List Operation :=
  [.initReserve .dai (.kinked .stableTwo),
    .initReserve .weth (.kinked .weth),
    .setPrice (.text "DAI") (.whole 1000000000000000000),
    .setPrice (.text "WETH") (.whole 2000000000000000000000),
    .deposit (.text "DAI") 1000000000000000000000 (.text "carol"),
    .deposit (.text "WETH") 1000000000000000000 (.text "ana"),
    .deposit (.text "WETH") 1000000000000000000 (.text "ben"),
    .borrow (.text "DAI") 400000000000000000000 2 (.text "ana"),
    .borrow (.text "DAI") 300000000000000000000 2 (.text "ben"),
    .advanceTime 31536000]

/-- The repayment accrues the reserve in which the other account owes, whose withdrawal is checked
against that debt. -/
theorem repayment_commutes_with_withdrawal :
    let p := run {} borrowedAcrossForAYear
    let repayment := Operation.repay (.text "DAI") 100000000000000000000 2 (.text "ana")
    let withdrawal := Operation.withdraw (.text "WETH") 500000000000000000 (.text "ben") none
    (p.perform repayment).2.toOption.isSome ∧ (p.perform withdrawal).2.toOption.isSome ∧
    ((p.after withdrawal).perform repayment).2 = (p.perform repayment).2 ∧
    ((p.after repayment).perform withdrawal).2 = (p.perform withdrawal).2 ∧
    SameRecords ((p.after repayment).after withdrawal).ledger
      ((p.after withdrawal).after repayment).ledger := by
  intro p repayment withdrawal
  have hreachable : Reachable p := ⟨⟨{}, 0, borrowedAcrossForAYear, rfl⟩, by decide +kernel⟩
  refine ⟨by decide +kernel, by decide +kernel, ?_⟩
  exact independent_operations_commute (u := .text "ana") (v := .text "ben") (a := .text "DAI")
    (b := .text "WETH") hreachable ⟨rfl, rfl⟩ ⟨rfl, rfl⟩ (by decide) (by decide) (by decide)
    (by decide)

end Independent

end Pool

end MoneyMarket
