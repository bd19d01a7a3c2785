import MoneyMarket.Proofs.Ledger.Work
import MoneyMarket.Proofs.Reserve.Round

/-!
# Rounds of a ledger

Each piece of work between two accruals deals with one reserve and leaves the others. To every
reserve an operation is therefore a number of rounds: none, one, or two where a liquidation takes
the collateral from the reserve in which the debt was repaid.
-/

namespace MoneyMarket

open MoneyMarket.Reserve

namespace Ledger

variable {l m n : Ledger} {a : Key} {asset : Name} {now : Int}

/-- Every reserve of `m` is one of `l` and has become what `R` makes of it. -/
def Become (R : Reserve → Reserve → Prop) (l m : Ledger) : Prop :=
  ∀ a s, m.reserve? a = some s → ∃ r, l.reserve? a = some r ∧ R r s

theorem Become.trans {R S T : Reserve → Reserve → Prop} (h : Become R l m) (h' : Become S m n)
    (ht : ∀ {r s t}, R r s → S s t → T r t) : Become T l n := by
  intro a t hn
  obtain ⟨s, hm, hst⟩ := h' a t hn
  obtain ⟨r, hl, hrs⟩ := h a s hm
  exact ⟨r, hl, ht hrs hst⟩

structure Deals (a : Key) (l m : Ledger) : Prop where
  here : Become Dealt l m
  elsewhere : ∀ b, b ≠ a → m.reserve? b = l.reserve? b

theorem deals_of_eq (h : ∀ b, m.reserve? b = l.reserve? b) : Deals a l m := by
  refine ⟨?_, fun b _ => h b⟩
  intro b r hr
  rw [h] at hr
  exact ⟨r, hr, .refl r⟩

theorem Deals.trans (h : Deals a l m) (h' : Deals a m n) : Deals a l n where
  here := h.here.trans h'.here .trans
  elsewhere b hb := (h'.elsewhere b hb).trans (h.elsewhere b hb)

theorem become_setReserve {R : Reserve → Reserve → Prop} (hrefl : ∀ r, R r r) {r s : Reserve}
    (hr : l.reserve? a = some r) (h : R r s) : Become R l (l.setReserve a s) := by
  intro b t ht
  rw [reserve?_setReserve] at ht
  split at ht
  · rename_i hb
    cases ht
    exact ⟨r, hb ▸ hr, h⟩
  · exact ⟨t, ht, hrefl t⟩

theorem deals_setReserve {r s : Reserve} (hr : l.reserve? a = some r) (h : Dealt r s) :
    Deals a l (l.setReserve a s) := by
  refine ⟨become_setReserve .refl hr h, ?_⟩
  intro b hb
  simp [hb]

/-! ## Bookings -/

def Booking.isAccrual : Booking → Bool
  | .accrue _ => true
  | _ => false

theorem book_deals {b : Booking} (hb : b.isAccrual = false)
    (h : l.book asset b = ⟨m, none⟩) : Deals asset l m := by
  have position {user : Name} {stages : List (Stage WithPosition)}
      (hstages : ∀ r p rp, Stage.perform stages (r, p) = .ok rp → Dealt r rp.1)
      (h : l.bookPosition user asset stages = ⟨m, none⟩) : Deals asset l m := by
    obtain ⟨r, rp, hr, hdone, rfl⟩ := bookPosition_done h
    have hset := deals_setReserve (l := l.openPosition user asset) hr (hstages _ _ _ hdone)
    exact ⟨hset.here, hset.elsewhere⟩
  have single {user : Name} {stage : Stage WithPosition}
      (hstage : ∀ r p rp, stage (r, p) = .ok rp → Moved True r p rp)
      (h : l.bookPosition user asset [stage] = ⟨m, none⟩) : Deals asset l m := by
    refine position ?_ h
    intro r p rp hdone
    obtain ⟨_, hrp, hdone⟩ := Stage.perform_cons_ok.1 hdone
    cases hdone
    exact (hstage _ _ _ hrp).dealt
  cases b with
  | accrue => cases hb
  | updateStableRate change rate time =>
    obtain ⟨r, s, hr, hs, rfl⟩ := bookReserve_done h
    obtain ⟨_, hs, hdone⟩ := Stage.perform_cons_ok.1 hs
    cases hdone
    obtain ⟨_, _, _, _, _, rfl⟩ := updateStableRate_ok_iff.1 hs
    exact deals_setReserve hr rfl
  | money change =>
    obtain ⟨r, s, hr, hs, rfl⟩ := bookReserve_done h
    cases hs
    exact deals_setReserve hr rfl
  | mintSupply => exact single (fun _ _ _ => mintSupply_moved) h
  | burnSupply => exact single (fun _ _ _ => burnSupply_moved) h
  | mintVariableDebt => exact single (fun _ _ _ => mintVariableDebt_moved) h
  | burnVariableDebt => exact single (fun _ _ _ => burnVariableDebt_moved) h
  | burnStableDebt => exact single (fun _ _ _ => burnStableDebt_moved trivial) h
  | mintStableDebt =>
    refine position ?_ h
    intro r p rp hdone
    exact (mintStableDebt_moved trivial hdone).dealt
  | transferSupply =>
    obtain ⟨_, _, _, _, rfl⟩ := bookTransfer_done h
    exact deals_of_eq fun _ => rfl

abbrev Rounds (now : Int) : Ledger → Ledger → Prop := Become (Relation.ReflTransGen (Round now))

theorem rounds_of_eq (h : ∀ b, m.reserve? b = l.reserve? b) : Rounds now l m := by
  intro b r hr
  rw [h] at hr
  exact ⟨r, hr, .refl⟩

theorem Rounds.trans (h : Rounds now l m) (h' : Rounds now m n) : Rounds now l n :=
  Become.trans h h' .trans

/-- Two accruals with dealings between them are a round. -/
theorem Deals.rounds {l₁ l₂ : Ledger} (hfirst : l.book asset (.accrue now) = ⟨l₁, none⟩)
    (h : Deals asset l₁ l₂) (hlast : l₂.book asset (.accrue now) = ⟨m, none⟩) : Rounds now l m := by
  obtain ⟨r, t, hr, ht, rfl⟩ := bookReserve_done hfirst
  obtain ⟨u, s, hu, hs, rfl⟩ := bookReserve_done hlast
  obtain ⟨t', ht', hdealt⟩ := h.here _ _ hu
  rw [reserve?_setReserve, if_pos rfl, Option.some.injEq] at ht'
  subst ht'
  intro b s' hs'
  rw [reserve?_setReserve] at hs'
  split at hs'
  · rename_i hb
    cases hs'
    exact ⟨r, hb ▸ hr, .single ⟨t, u, ht, hdealt, hs⟩⟩
  · rename_i hb
    rw [h.elsewhere b hb, reserve?_setReserve, if_neg hb] at hs'
    exact ⟨s', hs', .refl⟩

end Ledger

/-! ## Pieces of work -/

namespace LedgerWork

open MoneyMarket.Ledger MoneyMarket.Pool

variable {l m : Ledger} {asset user : Name} {now amount : Int} {u : Unit}

theorem bookDeposit_rounds {first : Bool} (h : bookDeposit asset amount user now l = .ok first m) :
    Rounds now l m := by
  obtain ⟨l₁, l₂, l₃, _, haccrue, hmoney, hmint, hagain⟩ := bookDeposit_ok h
  have hbooked : Deals asset l₁ l₃ :=
    (book_deals rfl hmoney).trans (book_deals rfl hmint)
  refine Deals.rounds haccrue (hbooked.trans (deals_of_eq ?_)) hagain
  cases first <;> exact fun _ => rfl

theorem Booked.rounds {work : LedgerWork Unit} {change : Int}
    (h : Booked asset now work change l m)
    (hwork : ∀ l m, work l = .ok () m → Deals asset l m) : Rounds now l m := by
  obtain ⟨l₁, l₂, l₃, haccrue, hdone, hmoney, hagain⟩ := h
  exact Deals.rounds haccrue ((hwork _ _ hdone).trans (book_deals rfl hmoney)) hagain

theorem work_deals {b : Booking} (hb : b.isAccrual = false) (l m : Ledger)
    (h : book asset b l = .ok () m) : Deals asset l m := book_deals hb (book_done h)

theorem bookWithdrawal_rounds (h : bookWithdrawal asset amount user now l = .ok u m) :
    Rounds now l m :=
  (bookWithdrawal_booked h).rounds (work_deals rfl)

theorem bookLoan_rounds {mode : RateMode} {rate : Int}
    (h : bookLoan asset amount mode user now l = .ok rate m) : Rounds now l m :=
  (bookLoan_booked h).rounds (work_deals (by cases mode <;> rfl))

theorem bookRepayment_rounds {mode : RateMode}
    (h : bookRepayment asset amount mode user now l = .ok u m) : Rounds now l m :=
  (bookRepayment_booked h).rounds (work_deals (by cases mode <;> rfl))

theorem repayDebt_deals (h : repayDebt user asset amount now l = .ok u m) : Deals asset l m := by
  obtain ⟨stable, k, _, hburn, hrest⟩ := repayDebt_completed h
  have hopened : Deals asset l (l.openPosition user asset) := deals_of_eq fun _ => rfl
  have hk : Deals asset l k := by
    split at hburn
    · exact hopened.trans (book_deals rfl hburn)
    · exact hburn ▸ hopened
  split at hrest
  · exact hk.trans (book_deals rfl hrest)
  · exact hrest ▸ hk

theorem settleDebt_rounds (h : settleDebt user asset amount now l = .ok u m) : Rounds now l m :=
  (settleDebt_booked h).rounds fun _ _ => repayDebt_deals

theorem moveCollateral_rounds {c : LiquidationCall} (h : moveCollateral c amount now l = .ok u m) :
    Rounds now l m := by
  obtain ⟨l₁, l₂, l₃, haccrue, htake, hagain, hretire⟩ := moveCollateral_done h
  have htaken : Deals c.collateralAsset l₁ l₂ := by
    split at htake
    · obtain ⟨k, hburn, hmoney⟩ := payOutCollateral_completed htake
      exact (book_deals rfl hburn).trans (book_deals rfl hmoney)
    · obtain ⟨name, k, _, htransfer, rfl⟩ := handOverCollateral_completed htake
      refine (book_deals rfl htransfer).trans (deals_of_eq ?_)
      split <;> exact fun _ => rfl
  refine (htaken.rounds haccrue hagain).trans (rounds_of_eq ?_)
  rw [retireEmptyCollateral_completed hretire]
  split <;> exact fun _ => rfl

end LedgerWork

end MoneyMarket
