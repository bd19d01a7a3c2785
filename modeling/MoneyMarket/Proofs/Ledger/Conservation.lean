import MoneyMarket.Proofs.Ledger.Step
import MoneyMarket.Proofs.Pool.Reach
import MoneyMarket.Proofs.Table
import Mathlib.Algebra.Order.BigOperators.Group.List

/-!
# Totals over all positions

A reserve keeps the total of what its positions hold. A `Tally` says which amount of a position is
counted and which figure of the reserve is its total, and what every booking then does to both by
the same amount. From that follows, once for all tallies, that the totals are right on every way a
ledger can take.
-/

namespace MoneyMarket

open MoneyMarket.Reserve

/-! ## Sums -/

theorem sum_map_update {κ : Type} [DecidableEq κ] {f g : κ → Int} {k : κ}
    (h : ∀ j, j ≠ k → g j = f j) {ks : List κ} (hks : ks.Nodup) :
    (ks.map g).sum = (ks.map f).sum + if k ∈ ks then g k - f k else 0 := by
  induction ks with
  | nil => rfl
  | cons j rest ih =>
    obtain ⟨hj, hrest⟩ := List.nodup_cons.1 hks
    simp only [List.map_cons, List.sum_cons, ih hrest]
    by_cases hjk : j = k
    · subst hjk
      rw [if_neg hj, if_pos List.mem_cons_self]
      omega
    · have hmem : (k ∈ j :: rest) ↔ k ∈ rest := by
        rw [List.mem_cons]
        exact or_iff_right fun e => hjk e.symm
      rw [h j hjk, if_congr hmem rfl rfl]
      omega

theorem Reserve.Moved.asset {loans : Prop} {r : Reserve} {p : Position} {rp : WithPosition}
    (h : Moved loans r p rp) : rp.1.asset = r.asset := by cases h <;> rfl

theorem Reserve.Moved.accruedToTreasury {loans : Prop} {r : Reserve} {p : Position}
    {rp : WithPosition} (h : Moved loans r p rp) :
    rp.1.accruedToTreasury = r.accruedToTreasury := by cases h <;> rfl

namespace Ledger

variable {l m : Ledger} {held : Position → Int}

/-- What a user has of an asset; nothing where there is no position. -/
def amount (l : Ledger) (held : Position → Int) (asset user : Key) : Int :=
  ((l.position? user asset).map held).getD 0

/-- What all users have of an asset. -/
def total (l : Ledger) (held : Position → Int) (asset : Key) : Int :=
  (l.positions.keys.map (l.amount held asset)).sum

theorem position?_eq_none {user : Key} (h : user ∉ l.positions.keys) (asset : Key) :
    l.position? user asset = none := by
  have hnone : l.positions.get? user = none := Entries.find?_eq_none_iff.2 h
  rw [position?, userPositions, hnone]
  rfl

theorem amount_eq {user : Key} {asset : Name} (h : ∀ name, held { asset := name } = 0) :
    l.amount held asset user = held (l.position user asset) := by
  unfold amount position
  cases l.position? user asset with
  | none => exact (h asset).symm
  | some p => rfl

theorem amount_setReserve (a : Key) (r : Reserve) :
    (l.setReserve a r).amount held = l.amount held := rfl

theorem total_setReserve (a : Key) (r : Reserve) :
    (l.setReserve a r).total held = l.total held := rfl

theorem amount_setPosition (u a b v : Key) (p : Position) :
    (l.setPosition u a p).amount held b v =
      if v = u ∧ b = a then held p else l.amount held b v := by
  unfold amount
  rw [position?_setPosition]
  split <;> rfl

theorem total_setPosition (u a b : Key) (p : Position) :
    (l.setPosition u a p).total held b =
      l.total held b + if b = a then held p - l.amount held a u else 0 := by
  have hother : ∀ v, v ≠ u → (l.setPosition u a p).amount held b v = l.amount held b v := by
    intro v hv
    rw [amount_setPosition, if_neg fun h => hv h.1]
  have hthere : (l.setPosition u a p).amount held b u =
      if b = a then held p else l.amount held b u := by
    rw [amount_setPosition]
    simp only [true_and]
  have hkeys : (l.setPosition u a p).positions.keys =
      if u ∈ l.positions.keys then l.positions.keys else l.positions.keys ++ [u] :=
    Table.keys_set _ _ _
  have hnodup : l.positions.keys.Nodup := l.positions.nodup
  unfold total
  rw [hkeys]
  by_cases hu : u ∈ l.positions.keys
  · rw [if_pos hu, sum_map_update hother hnodup, if_pos hu, hthere]
    by_cases hb : b = a
    · rw [if_pos hb, if_pos hb, hb]
    · rw [if_neg hb, if_neg hb, Int.sub_self]
  · have hkept := List.map_congr_left fun v hv => hother v fun e => hu (e ▸ hv)
    have hzero (c : Key) : l.amount held c u = 0 := by
      rw [amount, position?_eq_none hu]
      rfl
    rw [if_neg hu, List.map_append, List.sum_append, hkept, List.map_singleton,
      List.sum_singleton, hthere, hzero, hzero, Int.sub_zero]

theorem amount_le_total (h : ∀ a u, 0 ≤ l.amount held a u) (asset user : Key) :
    l.amount held asset user ≤ l.total held asset := by
  have hnonneg : ∀ x ∈ l.positions.keys.map (l.amount held asset), 0 ≤ x := by
    intro x hx
    obtain ⟨u, _, rfl⟩ := List.mem_map.1 hx
    exact h asset u
  by_cases hu : user ∈ l.positions.keys
  · exact List.single_le_sum hnonneg _ (List.mem_map_of_mem hu)
  · rw [amount, position?_eq_none hu]
    exact List.sum_nonneg hnonneg

section Modify

variable (hblank : ∀ name, held { asset := name } = 0) {user : Key} {asset : Name}
  {f : Position → Position}
include hblank

theorem total_modifyPosition (b : Key) :
    (l.modifyPosition user asset f).total held b = l.total held b +
      if b = asset.key then held (f (l.position user asset)) - held (l.position user asset)
      else 0 := by
  rw [modifyPosition, total_setPosition, amount_eq hblank]

theorem amount_modifyPosition_of_eq
    (h : held (f (l.position user asset)) = held (l.position user asset)) :
    (l.modifyPosition user asset f).amount held = l.amount held := by
  funext b v
  rw [modifyPosition, amount_setPosition, h, ← amount_eq hblank]
  split
  · rename_i heq
    rw [heq.1, heq.2]
  · rfl

theorem total_modifyPosition_of_eq
    (h : held (f (l.position user asset)) = held (l.position user asset)) :
    (l.modifyPosition user asset f).total held = l.total held := by
  funext b
  rw [total_modifyPosition hblank, h, Int.sub_self, ite_self, Int.add_zero]

end Modify

def owed (l : Ledger) (f : Reserve → Int) (asset : Key) : Int :=
  ((l.reserve? asset).map f).getD 0

theorem owed_eq {f : Reserve → Int} {a : Key} {r : Reserve} (h : l.reserve? a = some r) :
    l.owed f a = f r := by
  rw [owed, h]
  rfl

theorem owed_setReserve (f : Reserve → Int) (a b : Key) (r : Reserve) :
    (l.setReserve a r).owed f b = if b = a then f r else l.owed f b := by
  unfold owed
  rw [reserve?_setReserve]
  split <;> rfl

theorem owed_creditTreasury {f : Reserve → Int}
    (hf : ∀ r : Reserve, f { r with accruedToTreasury := 0 } = f r) (treasury : Key) (l : Ledger)
    (a : Key) : (Pool.creditTreasury treasury l).owed f a = l.owed f a := by
  unfold owed
  rw [Pool.reserve?_creditTreasury]
  cases l.reserve? a with
  | none => rfl
  | some r => exact hf r

/-! ## Invariants of the records -/

/-- Each reserve is found by its own name, and owes the treasury no negative share. -/
structure Sound (l : Ledger) : Prop where
  key : ∀ a r, l.reserve? a = some r → r.asset.key = a
  credit : ∀ a r, l.reserve? a = some r → 0 ≤ r.accruedToTreasury

theorem Sound.setReserve (h : Sound l) {a : Key} {s : Reserve} (hkey : s.asset.key = a)
    (hcredit : 0 ≤ s.accruedToTreasury) : Sound (l.setReserve a s) := by
  constructor <;> intro b r hb <;> rw [reserve?_setReserve] at hb <;> split at hb
  · rename_i hba
    cases hb
    rw [hkey, hba]
  · exact h.key b r hb
  · cases hb
    exact hcredit
  · exact h.credit b r hb

theorem Sound.setPosition (h : Sound l) (u a : Key) (p : Position) :
    Sound (l.setPosition u a p) := ⟨h.key, h.credit⟩

theorem Step.sound {loans : Prop} (h : Step loans l m) (hl : Sound l) : Sound m := by
  cases h with
  | accrue hr hs =>
    have hkey := hl.key _ _ hr
    have hcredit := hl.credit _ _ hr
    exact hl.setReserve (hs.asset ▸ hkey) (Int.le_trans hcredit hs.credit)
  | money hr | average _ hr =>
    have hkey := hl.key _ _ hr
    have hcredit := hl.credit _ _ hr
    exact hl.setReserve hkey hcredit
  | @move user asset r rp hr hm =>
    have hopen : Sound (l.openPosition user asset) := hl.setPosition _ _ _
    have hkey := hl.key _ _ hr
    have hcredit := hl.credit _ _ hr
    exact (hopen.setReserve (hm.asset ▸ hkey) (hm.accruedToTreasury ▸ hcredit)).setPosition _ _ _
  | handOver => exact (hl.setPosition _ _ _).setPosition _ _ _
  | credit hr treasury =>
    have hkey := hl.key _ _ hr
    exact Sound.setReserve (hl.setPosition treasury _ _) hkey (Int.le_refl 0)
  | openPosition | switch => exact hl.setPosition _ _ _
  | switchMargin => exact ⟨hl.key, hl.credit⟩

/-! ## Tallies -/

/-- `count` of a reserve is the total of `held`: bookings change both alike. The weight says
whether supply is what is counted. -/
structure Tally (loans : Prop) (weight : Int) (held : Position → Int) (count : Reserve → Int) :
    Prop where
  weight_nonneg : 0 ≤ weight
  blank : ∀ name, held { asset := name } = 0
  supply : ∀ p x, held { p with scaledBalance := x } = held p + weight * (x - p.scaledBalance)
  supply_le : ∀ p, 0 ≤ held p → weight * p.scaledBalance ≤ held p
  switched : ∀ p enabled, held { p with usedAsCollateral := enabled } = held p
  accrued : ∀ {r s}, Accrued r s → count s = count r
  money : ∀ r x, count { r with availableLiquidity := x } = count r
  average : loans → ∀ r x, count (Reserve.withLoan r x) = count r
  credit : ∀ r, count { r with accruedToTreasury := 0 } = count r + weight * r.accruedToTreasury
  moved : ∀ {r p rp}, Moved loans r p rp → 0 ≤ held p → held p ≤ count r →
    0 ≤ r.accruedToTreasury → 0 ≤ held rp.2 ∧ count rp.1 - count r = held rp.2 - held p
  edited : ∀ {r s}, Edited r s → count s = count r
  listed : ∀ {asset r}, Listed asset r → count r = 0

/-- No position holds less than nothing, and reserves owe what their positions hold. -/
structure Conserved (held : Position → Int) (count : Reserve → Int) (l : Ledger) : Prop where
  nonneg : ∀ a u, 0 ≤ l.amount held a u
  total : ∀ a, l.total held a = l.owed count a

variable {loans : Prop} {weight : Int} {count : Reserve → Int}

theorem Conserved.setReserve (h : Conserved held count l) {a : Key} {r s : Reserve}
    (hr : l.reserve? a = some r) (hs : count s = count r) :
    Conserved held count (l.setReserve a s) := by
  refine ⟨h.nonneg, fun b => ?_⟩
  rw [total_setReserve, h.total, owed, owed, map_reserve?_setReserve hr hs]

theorem Conserved.modifyPosition (h : Conserved held count l)
    (hblank : ∀ name, held { asset := name } = 0) {user : Key} {asset : Name}
    {f : Position → Position}
    (hf : held (f (l.position user asset)) = held (l.position user asset)) :
    Conserved held count (l.modifyPosition user asset f) := by
  constructor
  · rw [amount_modifyPosition_of_eq hblank hf]
    exact h.nonneg
  · rw [total_modifyPosition_of_eq hblank hf]
    exact h.total

theorem Conserved.openPosition (h : Conserved held count l)
    (hblank : ∀ name, held { asset := name } = 0) (user : Key) (asset : Name) :
    Conserved held count (l.openPosition user asset) :=
  Conserved.modifyPosition h (f := id) hblank rfl

namespace Tally

variable (t : Tally loans weight held count)
include t

theorem move {user asset : Name} {r : Reserve} {rp : WithPosition}
    (hr : l.reserve? asset = some r) (hm : Moved loans r (l.position user asset) rp)
    (hs : Sound l) (hl : Conserved held count l) :
    Conserved held count ((l.openPosition user asset).setWithPosition user asset rp) := by
  have hamount : l.amount held asset user = held (l.position user asset) := amount_eq t.blank
  have hle := amount_le_total hl.nonneg asset user
  rw [hl.total, owed_eq hr, hamount] at hle
  obtain ⟨hnonneg, heq⟩ := t.moved hm (hamount ▸ hl.nonneg asset user) hle (hs.credit _ _ hr)
  have hopen : Conserved held count (l.openPosition user asset) :=
    hl.openPosition t.blank user asset
  constructor
  · intro b v
    rw [setWithPosition, amount_setPosition, amount_setReserve]
    split
    · exact hnonneg
    · exact hopen.nonneg b v
  · intro b
    have hthere : (l.openPosition user asset).amount held asset user =
        held (l.position user asset) := by
      rw [openPosition, amount_setPosition, if_pos ⟨rfl, rfl⟩]
    rw [setWithPosition, total_setPosition, total_setReserve, amount_setReserve, hthere,
      hopen.total]
    show _ = ((l.openPosition user asset).setReserve asset rp.1).owed count b
    rw [owed_setReserve]
    split
    · rename_i hb
      have hthen : (l.openPosition user asset).owed count asset = count r := owed_eq hr
      rw [hb, hthen]
      omega
    · exact Int.add_zero _

theorem handOver {source target asset : Name} {x : Int} (hx : 0 ≤ x)
    (hp : x ≤ (l.position source asset).scaledBalance) (hl : Conserved held count l) :
    Conserved held count
      ((l.modifyPosition source asset fun p =>
          { p with scaledBalance := p.scaledBalance - x }).modifyPosition target asset fun p =>
        { p with scaledBalance := p.scaledBalance + x }) := by
  have hsource : l.amount held asset source = held (l.position source asset) := amount_eq t.blank
  have hpart : 0 ≤ held (l.position source asset) - weight * x := by
    have hnonneg := hsource ▸ hl.nonneg asset source
    have hle := t.supply_le _ hnonneg
    have := Int.mul_le_mul_of_nonneg_left hp t.weight_nonneg
    omega
  have hgift := Int.mul_nonneg t.weight_nonneg hx
  have htaken (p : Position) :
      held { p with scaledBalance := p.scaledBalance - x } = held p - weight * x := by
    rw [t.supply]
    ring
  have hgiven (p : Position) :
      held { p with scaledBalance := p.scaledBalance + x } = held p + weight * x := by
    rw [t.supply]
    ring
  -- both may be one account, so what is left is looked at before the gift
  constructor
  · have hleft : ∀ b v, 0 ≤ Ledger.amount (l.modifyPosition source asset fun p =>
        { p with scaledBalance := p.scaledBalance - x }) held b v := by
      intro b v
      rw [modifyPosition, amount_setPosition, htaken]
      split
      · exact hpart
      · exact hl.nonneg b v
    intro b v
    rw [modifyPosition, amount_setPosition, hgiven, ← amount_eq t.blank]
    split
    · have := hleft asset target
      omega
    · exact hleft b v
  · intro b
    rw [total_modifyPosition t.blank, total_modifyPosition t.blank, htaken, hgiven, hl.total]
    show _ = l.owed count b
    split <;> omega

theorem pay {a : Key} {r : Reserve} (hr : l.reserve? a = some r) (treasury : Key) (hs : Sound l)
    (hl : Conserved held count l) :
    Conserved held count ((l.modifyPosition treasury r.asset fun p =>
        { p with scaledBalance := p.scaledBalance + r.accruedToTreasury }).setReserve a
      { r with accruedToTreasury := 0 }) := by
  have hgift := Int.mul_nonneg t.weight_nonneg (hs.credit _ _ hr)
  have hgiven (p : Position) : held { p with scaledBalance := p.scaledBalance + r.accruedToTreasury }
      = held p + weight * r.accruedToTreasury := by
    rw [t.supply]
    ring
  constructor
  · intro b v
    rw [amount_setReserve, modifyPosition, amount_setPosition, hgiven, ← amount_eq t.blank]
    split
    · have := hl.nonneg r.asset treasury
      omega
    · exact hl.nonneg b v
  · intro b
    rw [total_setReserve, total_modifyPosition t.blank, hgiven, hl.total, owed_setReserve,
      t.credit, hs.key _ _ hr]
    show _ = if b = a then _ else l.owed count b
    split
    · rename_i hb
      rw [hb, owed_eq hr]
      omega
    · exact Int.add_zero _

theorem step (h : Step loans l m) (hs : Sound l) (hl : Conserved held count l) :
    Conserved held count m := by
  cases h with
  | @accrue _ r s hr ha =>
    have hcount : count s = count r := t.accrued ha
    exact hl.setReserve hr hcount
  | @money _ r hr change => exact hl.setReserve hr (t.money r _)
  | @average _ r hloans hr x => exact hl.setReserve hr (t.average hloans r x)
  | move hr hm => exact t.move hr hm hs hl
  | handOver hr hx hp => exact t.handOver hx hp hl
  | credit hr treasury => exact t.pay hr treasury hs hl
  | openPosition user asset => exact hl.openPosition t.blank user asset
  | switch => exact hl.modifyPosition t.blank (t.switched _ _)
  | switchMargin => exact ⟨hl.nonneg, hl.total⟩

end Tally

end Ledger

end MoneyMarket
