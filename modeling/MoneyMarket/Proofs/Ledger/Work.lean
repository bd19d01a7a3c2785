import MoneyMarket.Pool.Borrow
import MoneyMarket.Pool.Supply
import MoneyMarket.Proofs.Ledger.Step

/-!
# What pieces of work have in common

A property that the single steps of work have, and that is kept by doing one thing after another, is
one of every piece of work that is made of such steps. `Permits` says which steps have it: those at
one time, on the positions of certain accounts, and with or without stable debt. The first such
property is that wherever the work ends, at its value or at a fault, it got there by steps of the
ledger.
-/

namespace MoneyMarket

def Ledger.Booking.Allowed (now : Int) (named : Key → Prop) (loans : Prop) :
    Ledger.Booking → Prop
  | .accrue time => time = now
  | .updateStableRate _ _ _ => False
  | .mintSupply user _ | .burnSupply user _ => named user
  | .mintVariableDebt user _ | .burnVariableDebt user _ => named user
  | .transferSupply source target _ => named source ∧ named target
  | .mintStableDebt user _ _ time | .burnStableDebt user _ time => loans ∧ named user ∧ time = now
  | .money _ => True

theorem Ledger.Booking.Allowed.loans {now : Int} {named : Key → Prop} {loans : Prop}
    {b : Ledger.Booking} (h : b.Allowed now named loans) (hb : b.isStable) : loans := by
  cases b <;> simp_all [Allowed, isStable]

namespace LedgerWork

open MoneyMarket.Ledger

variable {α β : Type} {loans : Prop}

structure Permits (P : {α : Type} → LedgerWork α → Prop) (now : Int) (named : Key → Prop)
    (loans : Prop) : Prop where
  done : ∀ {α : Type} (a : α), P (pure a : LedgerWork α)
  lift : ∀ {α : Type} (e : Except Fault α), P (liftM e : LedgerWork α)
  read : P (get : LedgerWork Ledger)
  andThen : ∀ {α β : Type} {work : LedgerWork α} {next : α → LedgerWork β}, P work →
    (∀ a, P (next a)) → P (work >>= next)
  opening : ∀ {user : Name} (asset : Name), named user → P (openPosition user asset)
  switch : ∀ {user : Name} (asset : Name) (enabled : Bool), named user →
    P (setUsedAsCollateral user asset enabled)
  switchMargin : ∀ {user : Name} (enabled : Bool), named user →
    P (modify (·.setUsesMargin user enabled) : LedgerWork PUnit)
  booking : ∀ (asset : Name) (b : Booking), b.Allowed now named loans → P (book asset b)

namespace Permits

variable {P : {α : Type} → LedgerWork α → Prop} {now : Int} {named : Key → Prop}
variable (h : Permits P now named loans)
include h

theorem liftThen {e : Except Fault α} {next : α → LedgerWork β} (hn : ∀ a, e = .ok a → P (next a)) :
    P ((liftM e : LedgerWork α) >>= next) := by
  cases e with
  | ok a => exact hn a rfl
  | error f => exact h.lift (.error f : Except Fault β)

theorem map {work : LedgerWork α} (g : α → β) (hw : P work) : P (g <$> work) :=
  h.andThen hw fun a => h.done (g a)

theorem reserve (asset : Name) : P (reserve asset) := h.andThen h.read fun _ => h.lift _

theorem position (user asset : Name) : P (position user asset) :=
  h.andThen h.read fun _ => h.done _

theorem accrue (asset : Name) : P (book asset (.accrue now)) := h.booking asset _ rfl

theorem money (asset : Name) (change : Int) : P (book asset (.money change)) :=
  h.booking asset _ trivial

/-! ## Liquidations -/

theorem repayDebt (hloans : loans) {borrower : Name} (hb : named borrower) (asset : Name)
    (amount : Int) : P (repayDebt borrower asset amount now) := by
  unfold LedgerWork.repayDebt
  apply h.andThen (h.opening _ hb)
  intro _
  apply h.andThen (h.position _ _)
  intro _
  apply h.andThen (h.lift _)
  intro debt
  have hvariable : P (do
      if 0 < amount - min amount debt then
        book asset (.burnVariableDebt borrower (amount - min amount debt))) :=
    iteInduction (fun _ => h.booking _ _ hb) fun _ => h.done _
  dsimp only
  split
  · exact h.andThen (h.booking _ _ ⟨hloans, hb, rfl⟩) fun _ => hvariable
  · exact hvariable

theorem settleDebt (hloans : loans) {borrower : Name} (hb : named borrower) (asset : Name)
    (amount : Int) : P (settleDebt borrower asset amount now) := by
  unfold LedgerWork.settleDebt
  apply h.andThen (h.accrue _)
  intro _
  apply h.andThen (h.repayDebt hloans hb _ _)
  intro _
  exact h.andThen (h.money _ _) fun _ => h.accrue _

theorem payOutCollateral {borrower : Name} (hb : named borrower) (asset : Name) (seized : Int) :
    P (payOutCollateral borrower asset seized) :=
  h.andThen (h.booking _ _ hb) fun _ => h.money _ _

theorem handOverCollateral {borrower : Name} (hb : named borrower) (asset : Name) {liquidator : Json}
    (hl : ∀ name, liquidator.named = .ok name → named name) (seized : Int) :
    P (handOverCollateral borrower asset liquidator seized) := by
  unfold LedgerWork.handOverCollateral
  apply h.liftThen
  intro name hname
  apply h.andThen (h.position _ _)
  intro _
  have hliquidator := hl name hname
  have htransfer : (Booking.transferSupply borrower name seized).Allowed now named loans :=
    ⟨hb, hliquidator⟩
  apply h.andThen (h.booking _ _ htransfer)
  intro _
  split
  · exact h.switch _ _ hliquidator
  · exact h.done _

theorem retireEmptyCollateral {user : Name} (hu : named user) (asset : Name) :
    P (retireEmptyCollateral user asset) := by
  unfold LedgerWork.retireEmptyCollateral
  apply h.andThen (h.position _ _)
  intro _
  split
  · exact h.switch _ _ hu
  · exact h.done _

theorem moveCollateral {c : LiquidationCall} (hb : named c.borrower)
    (hl : ∀ name, c.liquidator.named = .ok name → named name) (seized : Int) :
    P (moveCollateral c seized now) := by
  unfold LedgerWork.moveCollateral
  apply h.andThen (h.accrue _)
  intro _
  have hrest : P (do
      book c.collateralAsset (.accrue now)
      LedgerWork.retireEmptyCollateral c.borrower c.collateralAsset) :=
    h.andThen (h.accrue _) fun _ => h.retireEmptyCollateral hb _
  split
  · exact h.andThen (h.payOutCollateral hb _ _) fun _ => hrest
  · exact h.andThen (h.handOverCollateral hb _ hl _) fun _ => hrest

theorem liquidate (hloans : loans) (s : Surroundings) (params : LiquidationParams)
    {c : LiquidationCall} (hb : named c.borrower)
    (hl : ∀ name, c.liquidator.named = .ok name → named name) :
    P (liquidate s params c now) := by
  unfold LedgerWork.liquidate
  apply h.andThen h.read
  intro _
  apply h.andThen (h.lift _)
  intro result
  apply h.andThen (h.lift _)
  intro repaid
  apply h.andThen (h.lift _)
  intro seized
  apply h.andThen (h.settleDebt hloans hb _ _)
  intro _
  exact h.andThen (h.moveCollateral hb hl _) fun _ => h.done _

theorem liquidateMargin (hloans : loans) (s : Surroundings) (params : LiquidationParams)
    {m : MarginLiquidation} (hb : named m.borrower) : P (liquidateMargin s params m now) := by
  unfold LedgerWork.liquidateMargin
  apply h.andThen h.read
  intro _
  apply h.andThen (h.lift _)
  intro result
  apply h.andThen (h.lift _)
  intro repaid
  exact h.andThen (h.settleDebt hloans hb _ _) fun _ => h.done _

end Permits

/-! ## Work takes steps -/

def Within (loans : Prop) (work : LedgerWork α) : Prop :=
  ∀ l, Steps loans l (work.outcome l).1

theorem within_modify {f : Ledger → Ledger} (h : ∀ l, Steps loans l (f l)) :
    Within loans (modify f : LedgerWork PUnit) := h

theorem within_bind {work : LedgerWork α} {next : α → LedgerWork β} (h : Within loans work)
    (hn : ∀ a, Within loans (next a)) : Within loans (work >>= next) := by
  intro l
  have hl := h l
  show Steps loans l (outcome (EStateM.bind work next) l).1
  unfold outcome EStateM.bind
  unfold outcome at hl
  cases hw : work l with
  | ok a m =>
    rw [hw] at hl
    exact hl.trans (hn a m)
  | error f m =>
    rw [hw] at hl
    exact hl

theorem within_book (asset : Name) (b : Booking) (h : b.isStable → loans) :
    Within loans (book asset b) := by
  intro l
  unfold outcome book
  have hb : Steps loans l (l.book asset b).state := book_steps b h
  dsimp only
  cases hf : (l.book asset b).fault <;> exact hb

theorem permits_within (loans : Prop) (now : Int) :
    Permits (Within loans) now (fun _ => True) loans where
  done _ _ := .refl
  lift e _ := by cases e <;> exact .refl
  read _ := .refl
  andThen := within_bind
  opening _ _ := within_modify fun _ => .single (.openPosition _ _)
  switch _ _ _ := within_modify fun _ => .single (.switch _ _ _)
  switchMargin _ _ := within_modify fun _ => .single (.switchMargin _ _)
  booking asset b hb := within_book asset b hb.loans

/-! ## Work that is done -/

variable {l m : Ledger} {a : α}

theorem done_eq_ok {b : α} : (pure b : LedgerWork α) l = .ok a m ↔ a = b ∧ m = l := by
  constructor
  · intro h
    cases h
    exact ⟨rfl, rfl⟩
  · rintro ⟨rfl, rfl⟩
    rfl

theorem get_eq_ok {n : Ledger} : (get : LedgerWork Ledger) l = .ok n m ↔ n = l ∧ m = l := by
  constructor
  · intro h
    cases h
    exact ⟨rfl, rfl⟩
  · rintro ⟨rfl, rfl⟩
    rfl

theorem lift_eq_ok {e : Except Fault α} :
    (liftM e : LedgerWork α) l = .ok a m ↔ e = .ok a ∧ m = l := by
  constructor
  · intro h
    cases e <;> cases h
    exact ⟨rfl, rfl⟩
  · rintro ⟨rfl, rfl⟩
    rfl

theorem position_eq_ok {user asset : Name} {pos : Position} :
    position user asset l = .ok pos m ↔ pos = l.position user asset ∧ m = l := done_eq_ok

theorem openPosition_eq_ok {user asset : Name} {u : Unit} :
    openPosition user asset l = .ok u m ↔ m = l.openPosition user asset := by
  constructor
  · intro h
    cases h
    rfl
  · rintro rfl
    rfl

theorem setUsedAsCollateral_eq_ok {user asset : Name} {enabled : Bool} {u : Unit} :
    setUsedAsCollateral user asset enabled l = .ok u m ↔
      m = l.modifyPosition user asset fun p => { p with usedAsCollateral := enabled } := by
  constructor
  · intro h
    cases h
    rfl
  · rintro rfl
    rfl

theorem book_eq_ok {asset : Name} {b : Booking} {u : Unit} :
    book asset b l = .ok u m ↔ l.book asset b = ⟨m, none⟩ := by
  unfold book
  dsimp only
  cases l.book asset b with
  | mk state fault => cases fault <;> simp

theorem get_done {n : Ledger} (h : (get : LedgerWork Ledger) l = .ok n m) : n = l ∧ m = l :=
  get_eq_ok.1 h

theorem lift_done {e : Except Fault α} (h : (liftM e : LedgerWork α) l = .ok a m) :
    e = .ok a ∧ m = l := lift_eq_ok.1 h

theorem book_done {asset : Name} {b : Booking} {u : Unit} (h : book asset b l = .ok u m) :
    l.book asset b = ⟨m, none⟩ := book_eq_ok.1 h

theorem map_done {work : LedgerWork α} {g : α → β} {b : β} (h : (g <$> work) l = .ok b m) :
    ∃ a, work l = .ok a m ∧ g a = b := by
  have hbind : (work >>= fun a => pure (g a)) l = .ok b m := h
  obtain ⟨a, l₁, hwork, hpure⟩ := bind_eq_ok.1 hbind
  cases hpure
  exact ⟨a, hwork, rfl⟩

def Booked (asset : Name) (now : Int) (work : LedgerWork Unit) (change : Int) (l m : Ledger) : Prop :=
  ∃ l₁ l₂ l₃, l.book asset (.accrue now) = ⟨l₁, none⟩ ∧ work l₁ = .ok () l₂ ∧
    l₂.book asset (.money change) = ⟨l₃, none⟩ ∧ l₃.book asset (.accrue now) = ⟨m, none⟩

section Bookings

open MoneyMarket.Pool

variable {asset user : Name} {amount now : Int} {mode : RateMode} {u : Unit}

theorem bookDeposit_ok {first : Bool} (h : bookDeposit asset amount user now l = .ok first m) :
    ∃ l₁ l₂ l₃, first = decide ((l₁.position user asset).scaledBalance = 0) ∧
      l.book asset (.accrue now) = ⟨l₁, none⟩ ∧ l₁.book asset (.money amount) = ⟨l₂, none⟩ ∧
      l₂.book asset (.mintSupply user amount) = ⟨l₃, none⟩ ∧
      (if first then l₃.modifyPosition user asset fun pos => { pos with usedAsCollateral := true }
        else l₃).book asset (.accrue now) = ⟨m, none⟩ := by
  unfold bookDeposit at h
  simp only [bind_eq_ok, book_eq_ok, position_eq_ok, and_assoc, exists_and_left, exists_eq_left] at h
  obtain ⟨_, l₁, haccrue, _, l₂, hmoney, _, l₃, hmint, h⟩ := h
  split at h <;> simp only [bind_eq_ok, book_eq_ok, setUsedAsCollateral_eq_ok, done_eq_ok] at h
  · rename_i hfirst
    obtain ⟨_, _, rfl, _, _, hagain, rfl, rfl⟩ := h
    exact ⟨l₁, l₂, l₃, rfl, haccrue, hmoney, hmint, by rwa [if_pos (decide_eq_true hfirst)]⟩
  · rename_i hfirst
    obtain ⟨_, _, hagain, rfl, rfl⟩ := h
    exact ⟨l₁, l₂, l₃, rfl, haccrue, hmoney, hmint, by rwa [if_neg (by simpa using hfirst)]⟩

theorem booked_of_ok {work : LedgerWork Unit} {change : Int} (h : (do
    book asset (.accrue now)
    work
    book asset (.money change)
    book asset (.accrue now)) l = .ok u m) : Booked asset now work change l m := by
  obtain ⟨_, l₁, haccrue, h⟩ := bind_eq_ok.1 h
  obtain ⟨_, l₂, hwork, h⟩ := bind_eq_ok.1 h
  obtain ⟨_, l₃, hmoney, hagain⟩ := bind_eq_ok.1 h
  exact ⟨l₁, l₂, l₃, book_done haccrue, hwork, book_done hmoney, book_done hagain⟩

theorem bookWithdrawal_booked (h : bookWithdrawal asset amount user now l = .ok u m) :
    Booked asset now (book asset (.burnSupply user amount)) (-amount) l m := booked_of_ok h

theorem bookRepayment_booked (h : bookRepayment asset amount mode user now l = .ok u m) :
    Booked asset now (book asset (burnBooking mode user amount now)) amount l m := booked_of_ok h

theorem settleDebt_booked (h : settleDebt user asset amount now l = .ok u m) :
    Booked asset now (repayDebt user asset amount now) amount l m := booked_of_ok h

theorem bookLoan_booked {rate : Int} (h : bookLoan asset amount mode user now l = .ok rate m) :
    Booked asset now (book asset (mintBooking mode user amount rate now)) (-amount) l m := by
  unfold bookLoan at h
  simp only [bind_eq_ok, book_eq_ok] at h
  obtain ⟨_, l₁, haccrue, _, _, hreserve, _, l₂, hmint, _, l₃, hmoney, _, _, hagain, hdone⟩ := h
  obtain ⟨rfl, rfl⟩ := done_eq_ok.1 hdone
  obtain ⟨_, rfl⟩ := lift_done (e := l₁.reserve asset) hreserve
  exact ⟨_, l₂, l₃, haccrue, book_eq_ok.2 hmint, hmoney, hagain⟩

end Bookings

/-- Stable debt is repaid first; what is left of the amount repays variable debt. -/
theorem repayDebt_completed {borrower asset : Name} {amount now : Int} {u : Unit}
    (h : repayDebt borrower asset amount now l = .ok u m) : ∃ stable k,
      ((l.openPosition borrower asset).position borrower asset).stableDebt now = .ok stable ∧
      (if 0 < min amount stable then (l.openPosition borrower asset).book asset
          (.burnStableDebt borrower (min amount stable) now) = ⟨k, none⟩
        else k = l.openPosition borrower asset) ∧
      (if 0 < amount - min amount stable then
          k.book asset (.burnVariableDebt borrower (amount - min amount stable)) = ⟨m, none⟩
        else m = k) := by
  unfold repayDebt at h
  simp only [bind_eq_ok, openPosition_eq_ok, position_eq_ok, lift_eq_ok, and_assoc, exists_and_left,
    exists_eq_left, exists_const] at h
  obtain ⟨stable, hstable, h⟩ := h
  have hvariable {k : Ledger} {left : Int} (h : (if 0 < left then
      book asset (.burnVariableDebt borrower left) else pure () : LedgerWork Unit) k = .ok u m) :
      if 0 < left then k.book asset (.burnVariableDebt borrower left) = ⟨m, none⟩ else m = k := by
    split at h
    · rw [if_pos ‹_›]
      exact book_done h
    · rw [if_neg ‹_›]
      exact (done_eq_ok.1 h).2
  refine ⟨stable, ?_⟩
  split at h
  · rename_i hsome
    obtain ⟨_, k, hburn, h⟩ := bind_eq_ok.1 h
    exact ⟨k, hstable, by rw [if_pos hsome]; exact book_done hburn, hvariable h⟩
  · rename_i hnone
    exact ⟨_, hstable, by rw [if_neg hnone], hvariable h⟩

theorem payOutCollateral_completed {borrower asset : Name} {seized : Int} {u : Unit}
    (h : payOutCollateral borrower asset seized l = .ok u m) : ∃ k,
      l.book asset (.burnSupply borrower seized) = ⟨k, none⟩ ∧
      k.book asset (.money (-seized)) = ⟨m, none⟩ := by
  unfold payOutCollateral at h
  simp only [bind_eq_ok, book_eq_ok] at h
  obtain ⟨_, k, hburn, hmoney⟩ := h
  exact ⟨k, hburn, hmoney⟩

theorem handOverCollateral_completed {borrower asset : Name} {liquidator : Json} {seized : Int}
    {u : Unit} (h : handOverCollateral borrower asset liquidator seized l = .ok u m) : ∃ name k,
      liquidator.named = .ok name ∧
      l.book asset (.transferSupply borrower name seized) = ⟨k, none⟩ ∧
      m = if (l.position name asset).scaledBalance = 0 then
        k.modifyPosition name asset fun p => { p with usedAsCollateral := true } else k := by
  unfold handOverCollateral at h
  simp only [bind_eq_ok, lift_eq_ok, position_eq_ok, book_eq_ok, and_assoc, exists_and_left,
    exists_eq_left] at h
  obtain ⟨name, hname, _, k, htransfer, h⟩ := h
  refine ⟨name, k, hname, htransfer, ?_⟩
  split at h
  · rw [if_pos ‹_›]
    exact setUsedAsCollateral_eq_ok.1 h
  · rw [if_neg ‹_›]
    exact (done_eq_ok.1 h).2

theorem retireEmptyCollateral_completed {user asset : Name} {u : Unit}
    (h : retireEmptyCollateral user asset l = .ok u m) :
    m = if (l.position user asset).scaledBalance = 0 then
      l.modifyPosition user asset fun p => { p with usedAsCollateral := false } else l := by
  unfold retireEmptyCollateral at h
  simp only [bind_eq_ok, position_eq_ok, and_assoc, exists_and_left, exists_eq_left] at h
  split at h
  · rw [if_pos ‹_›]
    exact setUsedAsCollateral_eq_ok.1 h
  · rw [if_neg ‹_›]
    exact (done_eq_ok.1 h).2

/-- Both ways of taking the collateral end alike: another accrual, and an empty position is switched
off. -/
theorem moveCollateral_done {c : LiquidationCall} {seized now : Int} {u : Unit}
    (h : moveCollateral c seized now l = .ok u m) : ∃ l₁ l₂ l₃,
      l.book c.collateralAsset (.accrue now) = ⟨l₁, none⟩ ∧
      (if c.receiveUnderlying then payOutCollateral c.borrower c.collateralAsset seized
        else handOverCollateral c.borrower c.collateralAsset c.liquidator seized) l₁ = .ok () l₂ ∧
      l₂.book c.collateralAsset (.accrue now) = ⟨l₃, none⟩ ∧
      retireEmptyCollateral c.borrower c.collateralAsset l₃ = .ok u m := by
  unfold moveCollateral at h
  simp only [bind_eq_ok, book_eq_ok] at h
  obtain ⟨_, l₁, haccrue, h⟩ := h
  refine ⟨l₁, ?_⟩
  split at h <;> simp only [bind_eq_ok, book_eq_ok] at h
  · obtain ⟨_, l₂, htake, _, l₃, hagain, hretire⟩ := h
    exact ⟨l₂, l₃, haccrue, by rwa [if_pos ‹_›], hagain, hretire⟩
  · obtain ⟨_, l₂, htake, _, l₃, hagain, hretire⟩ := h
    exact ⟨l₂, l₃, haccrue, by rwa [if_neg ‹_›], hagain, hretire⟩

theorem liquidate_completed {s : Surroundings} {params : LiquidationParams} {c : LiquidationCall}
    {now : Int} {result : LiquidationResult} (h : liquidate s params c now l = .ok result m) :
    l.planStandardLiquidation s params c now = .ok result ∧ ∃ repaid seized l₁,
      result.debtRepaid.booked = .ok repaid ∧ result.collateralSeized.booked = .ok seized ∧
      settleDebt c.borrower c.debtAsset repaid now l = .ok () l₁ ∧
      moveCollateral c seized now l₁ = .ok () m := by
  unfold liquidate at h
  simp only [bind_eq_ok, get_eq_ok, lift_eq_ok, done_eq_ok, and_assoc, exists_and_left,
    exists_eq_left] at h
  obtain ⟨_, hplan, repaid, hrepaid, seized, hseized, _, l₁, hsettle, _, _, hmove, rfl, rfl⟩ := h
  exact ⟨hplan, repaid, seized, l₁, hrepaid, hseized, hsettle, hmove⟩

theorem liquidateMargin_completed {s : Surroundings} {params : LiquidationParams}
    {c : MarginLiquidation} {now : Int} {result : LiquidationResult}
    (h : liquidateMargin s params c now l = .ok result m) :
    l.planMarginLiquidation s params c now = .ok result ∧ ∃ repaid,
      result.debtRepaid.booked = .ok repaid ∧
      settleDebt c.borrower c.debtAsset repaid now l = .ok () m := by
  unfold liquidateMargin at h
  simp only [bind_eq_ok, get_eq_ok, lift_eq_ok, done_eq_ok, and_assoc, exists_and_left,
    exists_eq_left] at h
  obtain ⟨_, hplan, repaid, hrepaid, _, _, hsettle, rfl, rfl⟩ := h
  exact ⟨hplan, repaid, hrepaid, hsettle⟩

def Leads (R : Ledger → Ledger → Prop) (work : LedgerWork α) : Prop :=
  ∀ l a m, work l = .ok a m → R l m

/-- It is enough to look at the single steps. -/
theorem permits_leads {R : Ledger → Ledger → Prop} {now : Int} {named : Key → Prop}
    (hrefl : ∀ l, R l l) (htrans : ∀ {l m n}, R l m → R m n → R l n)
    (hopen : ∀ l (user asset : Name), named user → R l (l.openPosition user asset))
    (hswitch : ∀ l (user asset : Name) enabled, named user →
      R l (l.modifyPosition user asset fun p => { p with usedAsCollateral := enabled }))
    (hmargin : ∀ l user enabled, named user → R l (l.setUsesMargin user enabled))
    (hbook : ∀ l m (asset : Name) b, b.Allowed now named loans → l.book asset b = ⟨m, none⟩ →
      R l m) : Permits (Leads R) now named loans where
  done a := by
    rintro l _ _ h
    cases h
    exact hrefl l
  lift e := by
    rintro l _ _ h
    rw [(lift_done h).2]
    exact hrefl l
  read := by
    rintro l _ _ h
    rw [(get_done h).2]
    exact hrefl l
  andThen hw hn := by
    rintro l _ _ h
    obtain ⟨a, l₁, h, h₁⟩ := bind_eq_ok.1 h
    exact htrans (hw _ _ _ h) (hn a _ _ _ h₁)
  opening asset hu := by
    rintro l _ _ h
    cases h
    exact hopen l _ asset hu
  switch asset enabled hu := by
    rintro l _ _ h
    cases h
    exact hswitch l _ asset enabled hu
  switchMargin enabled hu := by
    rintro l _ _ h
    cases h
    exact hmargin l _ enabled hu
  booking asset b hb := by
    rintro l _ m h
    exact hbook l m asset b hb (book_done h)

end LedgerWork

end MoneyMarket
