import MoneyMarket.Proofs.Ledger.Work
import MoneyMarket.Proofs.Reserve.Bookings

/-!
# Ledgers in order

A ledger is in order when its reserves and positions are, and positions are in listed assets only.
What a piece of work needs and what it leaves is stated once for each booking: in a reserve that has
just been brought up to date, every booking of a proper amount is done, and the ledger stays in
order.
-/

namespace MoneyMarket

open MoneyMarket.Reserve

namespace Ledger

structure Orderly (now : Int) (l : Ledger) : Prop where
  reserves : ∀ a r, l.reserve? a = some r → r.Orderly now
  named : ∀ a r, l.reserve? a = some r → r.asset.key = a
  positions : ∀ u a pos, l.position? u a = some pos → pos.Orderly now
  listed : ∀ u a pos, l.position? u a = some pos → ∃ r, l.reserve? a = some r

/-- Between `l` and `m` there were dealings in one reserve only. It is up to date and holds `x`, and
everything is in order. -/
structure Dealing (now : Int) (asset : Name) (x : Int) (l m : Ledger) : Prop where
  orderly : m.Orderly now
  here : ∃ r, m.reserve? asset = some r ∧ r.Current now x
  elsewhere : ∀ a, a ≠ asset.key → m.reserve? a = l.reserve? a

variable {now time x y : Int} {l m n : Ledger} {a u : Key} {r s : Reserve} {pos : Position}
  {user asset : Name}

theorem Orderly.empty (now : Int) : Orderly now {} := by
  refine ⟨?_, ?_, ?_, ?_⟩
  · intro a r hr
    cases hr
  · intro a r hr
    cases hr
  · intro u a pos hpos
    cases hpos
  · intro u a pos hpos
    cases hpos

theorem Orderly.later (h : l.Orderly now) (hle : now ≤ time) : l.Orderly time where
  reserves a r hr := (h.reserves a r hr).later hle
  named := h.named
  positions u a pos hpos := (h.positions u a pos hpos).later hle
  listed := h.listed

theorem Orderly.setReserve (h : l.Orderly now) (hs : s.Orderly now) (hname : s.asset.key = a) :
    (l.setReserve a s).Orderly now := by
  constructor
  · intro b t ht
    rw [reserve?_setReserve] at ht
    split at ht
    · cases ht
      exact hs
    · exact h.reserves b t ht
  · intro b t ht
    rw [reserve?_setReserve] at ht
    split at ht
    · rename_i hb
      cases ht
      exact hname.trans hb.symm
    · exact h.named b t ht
  · exact h.positions
  · intro v b q hq
    obtain ⟨t, ht⟩ := h.listed v b q hq
    rw [reserve?_setReserve]
    split
    · exact ⟨s, rfl⟩
    · exact ⟨t, ht⟩

theorem Orderly.setPosition (h : l.Orderly now) (hpos : pos.Orderly now)
    (hr : ∃ r, l.reserve? a = some r) (u : Key) : (l.setPosition u a pos).Orderly now := by
  refine ⟨h.reserves, h.named, ?_, ?_⟩
  · intro v b q hq
    rw [position?_setPosition] at hq
    split at hq
    · cases hq
      exact hpos
    · exact h.positions v b q hq
  · intro v b q hq
    rw [position?_setPosition] at hq
    split at hq
    · rename_i hb
      exact hb.2 ▸ hr
    · exact h.listed v b q hq

theorem Orderly.position (h : l.Orderly now) (u : Key) (asset : Name) :
    (l.position u asset).Orderly now := by
  unfold Ledger.position
  cases hpos : l.position? u asset with
  | none => exact Position.orderly_empty now asset
  | some pos => exact h.positions u asset pos hpos

theorem reserve_answers {faults : Fault → Prop} (hrefused : ∀ cause, faults (.refused cause))
    (l : Ledger) (asset : Name) :
    Answers faults (fun r => l.reserve? asset = some r) (l.reserve asset) := by
  unfold Ledger.reserve
  split
  · assumption
  · exact hrefused _

theorem Orderly.openPosition (h : l.Orderly now) (user : Name)
    (hr : ∃ r, l.reserve? asset = some r) :
    (l.openPosition user asset).Orderly now := h.setPosition (h.position user asset) hr user

theorem Orderly.switch (h : l.Orderly now) (user : Name) (hr : ∃ r, l.reserve? asset = some r)
    (enabled : Bool) :
    (l.modifyPosition user asset fun p => { p with usedAsCollateral := enabled }).Orderly now :=
  h.setPosition ((h.position user asset).setCollateral enabled) hr user

/-! ## Dealings -/

theorem Dealing.setReserve (h : Dealing now asset x l m) (hs : s.Current now y)
    (hname : s.asset.key = asset.key) : Dealing now asset y l (m.setReserve asset s) := by
  refine ⟨h.orderly.setReserve hs.orderly hname, ⟨s, by simp, hs⟩, ?_⟩
  intro b hb
  rw [reserve?_setReserve, if_neg hb, h.elsewhere b hb]

theorem Dealing.setPosition (h : Dealing now asset x l m) (hpos : pos.Orderly now) (u : Key) :
    Dealing now asset x l (m.setPosition u asset pos) := by
  obtain ⟨r, hr, _⟩ := h.here
  exact ⟨h.orderly.setPosition hpos ⟨r, hr⟩ u, h.here, h.elsewhere⟩

theorem Dealing.openPosition (h : Dealing now asset x l m) (user : Name) :
    Dealing now asset x l (m.openPosition user asset) :=
  h.setPosition (h.orderly.position user asset) user

theorem Dealing.switch (h : Dealing now asset x l m) (user : Name) (enabled : Bool) :
    Dealing now asset x l
      (m.modifyPosition user asset fun p => { p with usedAsCollateral := enabled }) :=
  h.setPosition ((h.orderly.position user asset).setCollateral enabled) user

end Ledger

namespace LedgerWork

open MoneyMarket.Ledger

/-- The work ends with a value and a ledger of which `Q` is true, or at one of `faults`. -/
def Ends {α : Type} (faults : Fault → Prop) (Q : α → Ledger → Prop) (work : LedgerWork α)
    (l : Ledger) : Prop :=
  match work l with
  | .ok a m => Q a m
  | .error f _ => faults f

namespace Ends

variable {α β : Type} {faults : Fault → Prop} {P Q : α → Ledger → Prop} {R : β → Ledger → Prop}
  {work : LedgerWork α} {l : Ledger}

theorem mono (h : Ends faults P work l) (hle : ∀ a m, P a m → Q a m) : Ends faults Q work l := by
  unfold Ends at h ⊢
  split at h
  · exact hle _ _ h
  · exact h

theorem andThen {next : α → LedgerWork β} (h : Ends faults P work l)
    (hn : ∀ a m, P a m → Ends faults R (next a) m) : Ends faults R (work >>= next) l := by
  unfold Ends at h
  show Ends faults R (EStateM.bind work next) l
  unfold Ends EStateM.bind
  split at h
  · rename_i a m hok
    simp only [hok]
    exact hn a m h
  · rename_i f m herror
    simp only [herror]
    exact h

theorem map {g : α → β} {I : Ledger → Prop} (h : Ends faults (fun _ m => I m) work l) :
    Ends faults (fun _ m => I m) (g <$> work) l := h.andThen fun _ _ hI => hI

theorem lift {P : α → Prop} {e : Except Fault α} {next : α → LedgerWork β}
    (h : Answers faults P e) (hn : ∀ a, P a → Ends faults R (next a) l) :
    Ends faults R ((liftM e : LedgerWork α) >>= next) l := by
  cases e with
  | ok a => exact hn a h
  | error f => exact h

theorem lifted {e : Except Fault α} {a : α} {next : α → LedgerWork β} (he : e = .ok a)
    (h : Ends faults R (next a) l) : Ends faults R ((liftM e : LedgerWork α) >>= next) l := by
  rw [he]
  exact h

theorem check {P : α → Prop} {f : Ledger → Except Fault α} {next : α → LedgerWork β}
    (h : Answers faults P (f l)) (hn : ∀ a, P a → Ends faults R (next a) l) :
    Ends faults R
      ((get : LedgerWork Ledger) >>= fun l => (liftM (f l) : LedgerWork α) >>= next) l :=
  lift h hn

section Steps

variable {user asset : Name}

theorem position {next : Position → LedgerWork β}
    (h : Ends faults R (next (l.position user asset)) l) :
    Ends faults R (position user asset >>= next) l := h

theorem opening {next : Unit → LedgerWork β}
    (h : Ends faults R (next ()) (l.openPosition user asset)) :
    Ends faults R (openPosition user asset >>= next) l := h

theorem switch {next : Unit → LedgerWork β} {enabled : Bool}
    (h : Ends faults R (next ())
      (l.modifyPosition user asset fun p => { p with usedAsCollateral := enabled })) :
    Ends faults R (setUsedAsCollateral user asset enabled >>= next) l := h

end Steps

/-! ## Bookings -/

section Bookings

variable {user asset : Name} {b : Booking} {r : Reserve} {Q : Unit → Ledger → Prop}

theorem bookReserve {stages : Reserve → List (Stage Reserve)} (hr : l.reserve? asset = some r)
    (hb : l.book asset b = l.bookReserve asset stages)
    (h : Answers faults (fun s => Q () (l.setReserve asset s)) (Stage.perform (stages r) r)) :
    Ends faults Q (book asset b) l := by
  rw [← Stage.toExcept_advance] at h
  unfold Ends book
  simp only [hb, Ledger.bookReserve, heldReserve, hr]
  generalize Stage.advance (stages r) r = progress at h ⊢
  obtain ⟨s, _ | f⟩ := progress <;> exact h

theorem bookPosition {stages : List (Stage WithPosition)} (hr : l.reserve? asset = some r)
    (hb : l.book asset b = l.bookPosition user asset stages)
    (h : Answers faults
      (fun rp => Q () ((l.openPosition user asset).setWithPosition user asset rp))
      (Stage.perform stages (r, l.position user asset))) :
    Ends faults Q (book asset b) l := by
  rw [← Stage.toExcept_advance] at h
  unfold Ends book
  simp only [hb, Ledger.bookPosition, heldReserve, hr]
  generalize Stage.advance stages (r, l.position user asset) = progress at h ⊢
  obtain ⟨rp, _ | f⟩ := progress <;> exact h

end Bookings

end Ends

end LedgerWork

namespace Ledger

open MoneyMarket.LedgerWork

variable {faults : Fault → Prop} {now x : Int} {l m : Ledger} {r : Reserve} {user asset : Name}

def Booking.Proper (now : Int) : Booking → Prop
  | .mintSupply _ amount | .burnSupply _ amount => 0 ≤ amount
  | .mintVariableDebt _ amount | .burnVariableDebt _ amount => 0 ≤ amount
  | .mintStableDebt _ amount rate time => 0 < amount ∧ 0 ≤ rate ∧ time = now
  | .burnStableDebt _ _ time => time = now
  | .transferSupply _ _ amount => 0 ≤ amount
  | _ => False

theorem Orderly.accrue_ends (hrefused : ∀ cause, faults (.refused cause)) (h : l.Orderly now)
    (hr : l.reserve? asset = some r) :
    Ends faults (fun _ m => Dealing now asset r.availableLiquidity l m)
      (LedgerWork.book asset (.accrue now)) l := by
  apply Ends.bookReserve hr rfl
  apply ((h.reserves _ _ hr).accrue_answers hrefused).mono
  rintro s ⟨hs, hname⟩
  refine ⟨h.setReserve hs.orderly ?_, ⟨s, by simp, hs⟩, ?_⟩
  · rw [hname, h.named _ _ hr]
  · intro b hb
    rw [reserve?_setReserve, if_neg hb]

theorem Dealing.accrue_ends (hrefused : ∀ cause, faults (.refused cause))
    (h : Dealing now asset x l m) :
    Ends faults (fun _ n => Dealing now asset x l n) (LedgerWork.book asset (.accrue now)) m := by
  obtain ⟨r, hr, hcurrent⟩ := h.here
  apply (h.orderly.accrue_ends hrefused hr).mono
  intro _ n hn
  rw [hcurrent.liquidity] at hn
  exact ⟨hn.orderly, hn.here, fun a ha => (hn.elsewhere a ha).trans (h.elsewhere a ha)⟩

theorem Dealing.money_ends (h : Dealing now asset x l m) {change : Int} (hx : 0 ≤ x + change) :
    Ends faults (fun _ n => Dealing now asset (x + change) l n)
      (LedgerWork.book asset (.money change)) m := by
  obtain ⟨r, hr, hcurrent⟩ := h.here
  apply Ends.bookReserve hr rfl
  exact h.setReserve (hcurrent.money hx) (h.orderly.named _ r hr)

theorem Dealing.position_ends (h : Dealing now asset x l m) {b : Booking}
    {stages : List (Stage WithPosition)} (hb : m.book asset b = m.bookPosition user asset stages)
    (hbooks : ∀ r pos, r.Current now x → pos.Orderly now →
      Books now x r (Stage.perform stages (r, pos))) :
    Ends faults (fun _ n => Dealing now asset x l n) (LedgerWork.book asset b) m := by
  obtain ⟨r, hr, hcurrent⟩ := h.here
  obtain ⟨rp, hdone, hcurrent', hname, hpos⟩ := hbooks r _ hcurrent (h.orderly.position user asset)
  apply Ends.bookPosition hr hb
  rw [hdone]
  have hnamed : rp.1.asset.key = asset.key := by rw [hname, h.orderly.named _ _ hr]
  exact ((h.openPosition user).setReserve hcurrent' hnamed).setPosition hpos user

theorem Dealing.transfer_ends (h : Dealing now asset x l m) (source target : Name) {amount : Int}
    (ha : 0 ≤ amount) :
    Ends faults (fun _ n => Dealing now asset x l n)
      (LedgerWork.book asset (.transferSupply source target amount)) m := by
  obtain ⟨r, hr, hcurrent⟩ := h.here
  have hopen := (h.openPosition source).openPosition target
  have hsource := hopen.orderly.position source asset
  obtain ⟨y, hy, hnonneg, hle⟩ := hcurrent.transferShare hsource ha
  have htaken := hopen.setPosition (hsource.setSupply (Int.sub_nonneg.2 hle)) source
  have htarget := htaken.orderly.position target asset
  have hgiven := htaken.setPosition
    (htarget.setSupply (Int.add_nonneg htarget.supply hnonneg)) target
  unfold Ends LedgerWork.book Ledger.book bookTransfer
  simp only [heldReserve, hr, hy]
  exact hgiven

theorem Books.single {now x : Int} {r : Reserve} {pos : Position} {stage : Stage WithPosition}
    (h : Books now x r (stage (r, pos))) : Books now x r (Stage.perform [stage] (r, pos)) := by
  obtain ⟨rp, hdone, h⟩ := h
  exact ⟨rp, Stage.perform_cons_ok.2 ⟨rp, hdone, rfl⟩, h⟩

theorem Dealing.book_ends (h : Dealing now asset x l m) {b : Booking} (hb : b.Proper now) :
    Ends faults (fun _ n => Dealing now asset x l n) (LedgerWork.book asset b) m := by
  cases b with
  | accrue | updateStableRate | money => exact hb.elim
  | transferSupply source target => exact h.transfer_ends source target hb
  | mintSupply => exact h.position_ends rfl fun _ _ hr hpos => Books.single (hr.mintSupply hpos hb)
  | burnSupply => exact h.position_ends rfl fun _ _ hr hpos => Books.single (hr.burnSupply hpos hb)
  | mintVariableDebt =>
    exact h.position_ends rfl fun _ _ hr hpos => Books.single (hr.mintVariableDebt hpos hb)
  | burnVariableDebt =>
    exact h.position_ends rfl fun _ _ hr hpos => Books.single (hr.burnVariableDebt hpos hb)
  | mintStableDebt user amount rate time =>
    obtain ⟨hamount, hrate, rfl⟩ := hb
    exact h.position_ends rfl fun _ _ hr hpos => hr.mintStableDebt hpos hamount hrate
  | burnStableDebt user amount time =>
    obtain rfl : time = now := hb
    exact h.position_ends rfl fun _ _ hr hpos => Books.single (hr.burnStableDebt hpos amount)

theorem Orderly.booked_ends (hrefused : ∀ cause, faults (.refused cause)) (h : l.Orderly now)
    (hr : l.reserve? asset = some r) {work : LedgerWork Unit} {change : Int}
    (hmoney : 0 ≤ r.availableLiquidity + change)
    (hwork : ∀ m, Dealing now asset r.availableLiquidity l m →
      Ends faults (fun _ n => Dealing now asset r.availableLiquidity l n) work m) :
    Ends faults (fun _ m => Dealing now asset (r.availableLiquidity + change) l m) (do
      LedgerWork.book asset (.accrue now)
      work
      LedgerWork.book asset (.money change)
      LedgerWork.book asset (.accrue now)) l := by
  apply (h.accrue_ends hrefused hr).andThen
  intro _ m hm
  apply (hwork m hm).andThen
  intro _ n hn
  apply (hn.money_ends hmoney).andThen
  intro _ k hk
  exact hk.accrue_ends hrefused

end Ledger

end MoneyMarket
