import MoneyMarket.Proofs.Ledger.Outlook
import MoneyMarket.Proofs.Ledger.Work

/-!
# Work on one account in one asset

Such work reads one reserve and what its account can see, and writes to that reserve and to the
account's position in it. In two ledgers that agree on all this it does the same: it gives the same
value or stops at the same fault, and the ledgers agree when it is done.
-/

namespace MoneyMarket

open MoneyMarket.Reserve

namespace Ledger

variable {now : Int} {u a : Key} {l l' m m' n : Ledger}

/-! ## What is read -/

/-- The ledgers have the same reserve of one asset, and an account sees no difference. -/
structure Agree (now : Int) (u a : Key) (l l' : Ledger) : Prop where
  reserve? : l'.reserve? a = l.reserve? a
  account : SameFor now u l l'

section Reading

variable {user asset : Name}

theorem Agree.reserve (h : Agree now u asset l l') : l'.reserve asset = l.reserve asset := by
  unfold Ledger.reserve
  rw [h.reserve?]

theorem Agree.heldReserve (h : Agree now u asset l l') :
    l'.heldReserve asset = l.heldReserve asset := by
  unfold Ledger.heldReserve
  rw [h.reserve?]

theorem Agree.position (h : Agree now user a l l') (asset : Name) :
    l'.position user asset = l.position user asset := by
  unfold Ledger.position
  rw [h.account.position?]

theorem Agree.supplyOf (h : Agree now u a l l') (asset : Key) (r : Reserve) :
    l'.supplyOf u asset r now = l.supplyOf u asset r now := by
  unfold Ledger.supplyOf
  rw [h.account.position?]

end Reading

theorem Agree.setReserve (h : Agree now u a l l') (r : Reserve) :
    Agree now u a (l.setReserve a r) (l'.setReserve a r) := by
  refine ⟨by simp, h.account.positions, h.account.margin, ?_, ?_⟩
  · intro b
    simp only [reserve?_setReserve]
    split
    · rfl
    · exact h.account.configs b
  · intro b pos s t hpos hs ht
    rw [reserve?_setReserve] at hs ht
    split at hs
    · rw [if_pos ‹_›] at ht
      cases hs
      cases ht
      exact .refl r
    · rw [if_neg ‹_›] at ht
      exact h.account.alike b pos s t hpos hs ht

theorem Agree.setPosition (h : Agree now u a l l') (p : Position) :
    Agree now u a (l.setPosition u a p) (l'.setPosition u a p) := by
  refine ⟨h.reserve?, ?_, h.account.margin, h.account.configs, ?_⟩
  · rw [userPositions_setPosition, userPositions_setPosition, if_pos rfl, if_pos rfl,
      h.account.positions]
  · intro b pos s t hpos hs ht
    rw [position?_setPosition] at hpos
    split at hpos
    · rename_i hb
      obtain ⟨-, rfl⟩ := hb
      have hst : some t = some s := ht.symm.trans (h.reserve?.trans hs)
      cases hst
      exact .refl s
    · exact h.account.alike b pos s t hpos hs ht

/-! ## What is written -/

/-- From `l` to `m` nothing is written but one reserve and positions of `users` in it. -/
structure Confined (users : Key → Prop) (a : Key) (l m : Ledger) : Prop where
  reserves : ∀ b, b ≠ a → m.reserve? b = l.reserve? b
  positions : ∀ w b, ¬ (users w ∧ b = a) → m.position? w b = l.position? w b
  margin : m.marginUsers = l.marginUsers

namespace Confined

variable {users others : Key → Prop}

theorem refl (l : Ledger) : Confined users a l l := ⟨fun _ _ => rfl, fun _ _ _ => rfl, rfl⟩

theorem trans (h : Confined users a l m) (h' : Confined users a m n) : Confined users a l n where
  reserves b hb := (h'.reserves b hb).trans (h.reserves b hb)
  positions w b hwb := (h'.positions w b hwb).trans (h.positions w b hwb)
  margin := h'.margin.trans h.margin

theorem mono (h : Confined users a l m) (hle : ∀ w, users w → others w) : Confined others a l m where
  reserves := h.reserves
  positions w b hwb := h.positions w b fun hw => hwb ⟨hle w hw.1, hw.2⟩
  margin := h.margin

theorem setReserve (h : Confined users a l m) (r : Reserve) :
    Confined users a l (m.setReserve a r) := by
  refine ⟨?_, h.positions, h.margin⟩
  intro b hb
  simp [hb, h.reserves b hb]

theorem setPosition (h : Confined users a l m) (hu : users u) (p : Position) :
    Confined users a l (m.setPosition u a p) := by
  refine ⟨h.reserves, ?_, h.margin⟩
  intro w b hwb
  rw [position?_setPosition, if_neg, h.positions w b hwb]
  rintro ⟨rfl, rfl⟩
  exact hwb ⟨hu, rfl⟩

theorem setOwn (h : Confined (· = u) a l m) (p : Position) :
    Confined (· = u) a l (m.setPosition u a p) := h.setPosition rfl p

end Confined

/-! ## Bookings -/

def Booking.OwnedBy (u : Key) : Booking → Prop
  | .accrue _ | .updateStableRate _ _ _ | .money _ => True
  | .mintSupply user _ | .burnSupply user _ => user.key = u
  | .mintVariableDebt user _ | .burnVariableDebt user _ => user.key = u
  | .mintStableDebt user _ _ _ | .burnStableDebt user _ _ => user.key = u
  | .transferSupply _ _ _ => False

end Ledger

namespace LedgerWork

open MoneyMarket.Ledger

variable {α β : Type} {now : Int} {u a : Key} {l l' m m' n : Ledger}

/-- Two ends of the same work: at one value, in ledgers that agree, or at one fault. -/
inductive SameEnd (now : Int) (u a : Key) (l l' : Ledger) :
    EStateM.Result Fault Ledger α → EStateM.Result Fault Ledger α → Prop
  | ok {x : α} {m m' : Ledger} (agree : Agree now u a m m') (left : Confined (· = u) a l m)
      (right : Confined (· = u) a l' m') : SameEnd now u a l l' (.ok x m) (.ok x m')
  | error {f : Fault} {m m' : Ledger} : SameEnd now u a l l' (.error f m) (.error f m')

def Local (now : Int) (u a : Key) (work : LedgerWork α) : Prop :=
  ∀ l l', Agree now u a l l' → SameEnd now u a l l' (work l) (work l')

namespace Local

theorem done (x : α) : Local now u a (pure x : LedgerWork α) :=
  fun _ _ h => .ok h (.refl _) (.refl _)

theorem lift (e : Except Fault α) : Local now u a (liftM e : LedgerWork α) := by
  intro l l' h
  cases e with
  | ok x => exact .ok h (.refl _) (.refl _)
  | error f => exact .error

theorem andThen {work : LedgerWork α} {next : α → LedgerWork β} (hw : Local now u a work)
    (hn : ∀ x, Local now u a (next x)) : Local now u a (work >>= next) := by
  intro l l' h
  have hends := hw l l' h
  show SameEnd now u a l l' (EStateM.bind work next l) (EStateM.bind work next l')
  unfold EStateM.bind
  generalize work l = first, work l' = first' at hends
  cases hends with
  | error => exact .error
  | @ok x m m' hagree hleft hright =>
    have hrest := hn x m m' hagree
    dsimp only
    generalize next x m = last, next x m' = last' at hrest
    cases hrest with
    | error => exact .error
    | ok hagree hleft' hright' => exact .ok hagree (hleft.trans hleft') (hright.trans hright')

theorem map {work : LedgerWork α} (g : α → β) (hw : Local now u a work) :
    Local now u a (g <$> work) := hw.andThen fun x => done (g x)

theorem look {f : Ledger → α} {next : α → LedgerWork β} (hf : ∀ l l', Agree now u a l l' → f l' = f l)
    (hn : ∀ x, Local now u a (next x)) :
    Local now u a ((do return f (← get) : LedgerWork α) >>= next) := by
  intro l l' h
  show SameEnd now u a l l' (next (f l) l) (next (f l') l')
  rw [hf l l' h]
  exact hn (f l) l l' h

theorem check {f : Ledger → Except Fault α} {next : α → LedgerWork β}
    (hf : ∀ l l', Agree now u a l l' → f l' = f l) (hn : ∀ x, Local now u a (next x)) :
    Local now u a ((get : LedgerWork Ledger) >>= fun l => (liftM (f l) : LedgerWork α) >>= next) := by
  intro l l' h
  show SameEnd now u a l l' (((liftM (f l) : LedgerWork α) >>= next) l)
    (((liftM (f l') : LedgerWork α) >>= next) l')
  rw [hf l l' h]
  exact (lift (f l)).andThen hn l l' h

end Local

/-! ## Steps -/

section Steps

variable {user asset : Name}

theorem modifyPosition_local (f : Position → Position) : Local now user asset
    (modify (·.modifyPosition user asset f) : LedgerWork PUnit) := by
  intro l l' h
  have hagree := h.setPosition (f (l.position user asset))
  have hsame : l'.modifyPosition user asset f =
      l'.setPosition user asset (f (l.position user asset)) := by
    unfold modifyPosition
    rw [h.position]
  rw [← hsame] at hagree
  exact .ok hagree ((Confined.refl l).setOwn _) ((Confined.refl l').setOwn _)

theorem openPosition_local : Local now user asset (openPosition user asset) :=
  modifyPosition_local id

theorem setUsedAsCollateral_local (enabled : Bool) :
    Local now user asset (setUsedAsCollateral user asset enabled) := modifyPosition_local _

theorem book_local {b : Booking} (hb : b.OwnedBy user) : Local now user asset (book asset b) := by
  intro l l' h
  -- a booking on the reserve alone
  have onReserve {stages : Reserve → List (Stage Reserve)}
      (hbook : ∀ l : Ledger, l.book asset b = l.bookReserve asset stages) :
      SameEnd now user asset l l' (book asset b l) (book asset b l') := by
    unfold book
    simp only [hbook]
    unfold bookReserve
    rw [h.heldReserve]
    cases l.heldReserve asset with
    | error f => exact .error
    | ok r =>
      dsimp only [Progress.map]
      cases (Stage.advance (stages r) r).fault with
      | some f => exact .error
      | none =>
        exact .ok (h.setReserve _) ((Confined.refl l).setReserve _) ((Confined.refl l').setReserve _)
  -- a booking on the reserve and the account's position
  have onPosition {owner : Name} {stages : List (Stage WithPosition)} (howner : owner.key = user.key)
      (hbook : ∀ l : Ledger, l.book asset b = l.bookPosition owner asset stages) :
      SameEnd now user asset l l' (book asset b l) (book asset b l') := by
    unfold book
    simp only [hbook]
    unfold bookPosition Ledger.openPosition
    rw [h.heldReserve, howner, h.position]
    cases l.heldReserve asset with
    | error f => exact .error
    | ok r =>
      dsimp only [Progress.map, setWithPosition]
      cases (Stage.advance stages (r, l.position user asset)).fault with
      | some f => exact .error
      | none =>
        refine .ok (((h.setPosition _).setReserve _).setPosition _) ?_ ?_ <;>
          exact (((Confined.refl _).setOwn _).setReserve _).setOwn _
  cases b with
  | accrue | updateStableRate | money => exact onReserve fun _ => rfl
  | transferSupply => cases hb
  | mintSupply | burnSupply | mintVariableDebt | burnVariableDebt | mintStableDebt
  | burnStableDebt => exact onPosition hb fun _ => rfl

theorem accrue_local (time : Int) : Local now user asset (book asset (.accrue time)) :=
  book_local (b := .accrue time) trivial

theorem money_local (change : Int) : Local now user asset (book asset (.money change)) :=
  book_local (b := .money change) trivial

end Steps

end LedgerWork

end MoneyMarket
