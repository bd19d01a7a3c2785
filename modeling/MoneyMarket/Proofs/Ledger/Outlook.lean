import MoneyMarket.Proofs.Ledger.Turn
import MoneyMarket.Solvency

/-!
# How an account sees the ledger

The report on an account depends on its own positions, on the balances that its reserves give them,
and on how assets are configured. Two ledgers in which these are the same give the same report. A
turn changes none of them for an account that it does not write to, though the reserves may have
accrued.
-/

namespace MoneyMarket

open MoneyMarket.Reserve

namespace Ledger

/-- The account has the same positions in `m` as in `l`, and they show the same balances. -/
structure SameFor (now : Int) (v : Key) (l m : Ledger) : Prop where
  positions : m.userPositions v = l.userPositions v
  margin : m.usesMargin v = l.usesMargin v
  configs : ∀ a, (m.reserve? a).map Reserve.config = (l.reserve? a).map Reserve.config
  alike : ∀ a pos r s, l.position? v a = some pos → l.reserve? a = some r →
    m.reserve? a = some s → Alike now pos r s

variable {now : Int} {named : Key → Prop} {v : Key} {l m n : Ledger}

theorem SameFor.refl (l : Ledger) : SameFor now v l l := by
  refine ⟨rfl, rfl, fun _ => rfl, ?_⟩
  intro a pos r s _ hr hs
  rw [hr] at hs
  cases hs
  exact .refl r

theorem SameFor.position? (h : SameFor now v l m) (a : Key) : m.position? v a = l.position? v a := by
  unfold Ledger.position?
  rw [h.positions]

theorem SameFor.trans (h : SameFor now v l m) (h' : SameFor now v m n) : SameFor now v l n := by
  refine ⟨h'.positions.trans h.positions, h'.margin.trans h.margin,
    fun a => (h'.configs a).trans (h.configs a), ?_⟩
  intro a pos r t hpos hr ht
  have hpos' := hpos
  rw [← h.position?] at hpos'
  have hlisted := h.configs a
  rw [hr] at hlisted
  obtain ⟨s, hs, _⟩ := Option.map_eq_some_iff.1 hlisted
  exact (h.alike a pos r s hpos hr hs).trans (h'.alike a pos s t hpos' hs ht)

/-! ## Turns -/

theorem Turns.configs (h : Turns now named l m) (a : Key) :
    (m.reserve? a).map Reserve.config = (l.reserve? a).map Reserve.config := by
  refine h.preserves (I := fun m =>
    (m.reserve? a).map Reserve.config = (l.reserve? a).map Reserve.config) ?_ rfl
  intro m n hturn hm
  rw [← hm]
  cases hturn with
  | accrue hr hs => exact map_reserve?_setReserve hr (accrue_accrued hs).config a
  | @money _ r hr change =>
    have hconfig : { r with availableLiquidity := r.availableLiquidity + change }.config = r.config :=
      rfl
    exact map_reserve?_setReserve hr hconfig a
  | @move user asset r rp hu hr hm =>
    exact map_reserve?_setReserve (l := m.openPosition user asset) hr hm.config a
  | handOver | openPosition | switch | switchMargin => rfl

theorem Turns.config_of {I : ReserveConfig → Prop} (h : Turns now named l m)
    (hl : ∀ a r, l.reserve? a = some r → I r.config) {a : Key} {s : Reserve}
    (hs : m.reserve? a = some s) : I s.config := by
  have hconfig := h.configs a
  rw [hs] at hconfig
  obtain ⟨r, hr, hsame⟩ := Option.map_eq_some_iff.1 hconfig.symm
  rw [← hsame]
  exact hl a r hr

theorem sameFor_setReserve {a : Key} {r s : Reserve} (hr : l.reserve? a = some r)
    (h : ∀ pos, l.position? v a = some pos → Alike now pos r s) (hconfig : s.config = r.config) :
    SameFor now v l (l.setReserve a s) := by
  refine ⟨rfl, rfl, map_reserve?_setReserve hr hconfig, ?_⟩
  intro b pos t u hpos ht hu
  rw [reserve?_setReserve] at hu
  split at hu
  · rename_i hb
    subst hb
    rw [hr] at ht
    cases ht
    cases hu
    exact h pos hpos
  · rw [ht] at hu
    cases hu
    exact .refl t

theorem sameFor_setPosition {u : Key} (hv : v ≠ u) (a : Key) (p : Position) :
    SameFor now v l (l.setPosition u a p) := by
  have hpositions : (l.setPosition u a p).userPositions v = l.userPositions v := by
    rw [userPositions_setPosition, if_neg hv]
  exact ⟨hpositions, rfl, fun _ => rfl, (SameFor.refl l).alike⟩

theorem sameFor_accrue (hl : Timely now l) {a : Key} {r s : Reserve} (hr : l.reserve? a = some r)
    (hs : r.accrue now = .ok s) : SameFor now v l (l.setReserve a s) := by
  have hupdated := (hl.running a r hr).updated_of_accrue hs
  apply sameFor_setReserve hr
  · intro pos hpos
    exact hupdated.alike (hl.counted hpos hr).2
  · exact hupdated.config

theorem sameFor_money {a : Key} {r : Reserve} (hr : l.reserve? a = some r) (money : Int) :
    SameFor now v l (l.setReserve a { r with availableLiquidity := money }) := by
  apply sameFor_setReserve hr
  · intro pos _
    exact .of_projections rfl rfl rfl
  · rfl

theorem Turn.sameFor (h : Turn now named l m) (hl : Timely now l) (hv : ¬ named v) :
    SameFor now v l m := by
  have other {user : Key} (hu : named user) : v ≠ user := fun e => hv (e ▸ hu)
  cases h with
  | accrue hr hs => exact sameFor_accrue hl hr hs
  | money hr => exact sameFor_money hr _
  | @move user asset r rp hu hr hm =>
    have hopen : SameFor now v l (l.openPosition user asset) := sameFor_setPosition (other hu) _ _
    have hreserve : SameFor now v (l.openPosition user asset)
        ((l.openPosition user asset).setReserve asset rp.1) :=
      sameFor_setReserve hr (fun _ _ => hm.alike) hm.config
    exact (hopen.trans hreserve).trans (sameFor_setPosition (other hu) _ _)
  | handOver hs ht =>
    exact (sameFor_setPosition (other hs) _ _).trans (sameFor_setPosition (other ht) _ _)
  | openPosition hu | switch hu => exact sameFor_setPosition (other hu) _ _
  | @switchMargin user hu enabled =>
    have hmargin := usesMargin_setUsesMargin l user v enabled
    rw [if_neg (other hu)] at hmargin
    exact ⟨rfl, hmargin, fun _ => rfl, (SameFor.refl l).alike⟩

theorem Turns.sameFor (h : Turns now named l m) (hl : Timely now l) (hv : ¬ named v) :
    SameFor now v l m := by
  have both : Timely now m ∧ SameFor now v l m := by
    refine h.preserves (I := fun m => Timely now m ∧ SameFor now v l m) ?_ ⟨hl, .refl l⟩
    rintro m n hturn ⟨hm, hsame⟩
    exact ⟨hturn.timely hm, hsame.trans (hturn.sameFor hm hv)⟩
  exact both.2

theorem creditTreasuryIn_sameFor {treasury : Key} (hv : v ≠ treasury) (l : Ledger) (a : Key) :
    SameFor now v l (Pool.creditTreasuryIn treasury l a) := by
  unfold Pool.creditTreasuryIn
  split
  · exact .refl l
  · rename_i r hr
    split
    · exact .refl l
    · refine (sameFor_setPosition hv _ _).trans (sameFor_setReserve hr ?_ rfl)
      intro pos _
      exact .of_projections rfl rfl rfl

theorem creditTreasury_sameFor {treasury : Key} (hv : v ≠ treasury) (l : Ledger) :
    SameFor now v l (Pool.creditTreasury treasury l) := by
  unfold Pool.creditTreasury
  generalize l.reserves.keys = keys
  induction keys generalizing l with
  | nil => exact .refl l
  | cons a rest ih => exact (creditTreasuryIn_sameFor hv l a).trans (ih _)

/-! ## Reports -/

variable {s : Surroundings}

theorem assess_congr {pos : Position} {r t : Reserve} (h : Alike now pos r t) :
    assess s t pos now = assess s r pos now := by
  unfold assess countsAsCollateral debtValue
  simp only [h.config, h.supply, h.debt]

theorem assessNext_congr {e : Key × Position}
    (hconfig : (m.reserve? e.1).map Reserve.config = (l.reserve? e.1).map Reserve.config)
    (h : ∀ r t, l.reserve? e.1 = some r → m.reserve? e.1 = some t → Alike now e.2 r t)
    (sofar : List Contribution × Quantity) :
    m.assessNext s now sofar e = l.assessNext s now sofar e := by
  unfold assessNext
  cases hr : l.reserve? e.1 <;> cases ht : m.reserve? e.1 <;> simp only [hr, ht] at hconfig h
  · rfl
  · simp at hconfig
  · simp at hconfig
  · simp only [assess_congr (h _ _ rfl rfl)]

theorem referenceValue_congr
    (h : ∀ a, (m.reserve? a).map Reserve.config = (l.reserve? a).map Reserve.config)
    (amount : Int) : m.referenceValue s amount = l.referenceValue s amount := by
  have hconfig := h (Name.text s.margin.referenceAsset).key
  unfold referenceValue
  dsimp only
  cases hr : l.reserve? (Name.text s.margin.referenceAsset).key <;>
    cases ht : m.reserve? (Name.text s.margin.referenceAsset).key <;>
    simp only [hr, ht, Option.map_some, Option.map_none, reduceCtorEq, Option.some.injEq] at hconfig
  · rfl
  · simp only [hconfig]

theorem marginContribution_congr
    (h : ∀ a, (m.reserve? a).map Reserve.config = (l.reserve? a).map Reserve.config) (user : Key) :
    m.marginContribution s user = l.marginContribution s user := by
  unfold marginContribution
  simp only [referenceValue_congr h]

theorem SameFor.assessAll (h : SameFor now v l m) : m.assessAll s v now = l.assessAll s v now := by
  unfold Ledger.assessAll
  rw [h.positions]
  have hentries : ∀ e ∈ (l.userPositions v).entries, ∀ sofar,
      m.assessNext s now sofar e = l.assessNext s now sofar e := by
    intro e he sofar
    refine assessNext_congr (h.configs e.1) ?_ sofar
    intro r t hr ht
    exact h.alike e.1 e.2 r t (Table.get?_of_mem he) hr ht
  generalize (([], .whole 0) : List Contribution × Quantity) = sofar
  generalize (l.userPositions v).entries = es at hentries
  induction es generalizing sofar with
  | nil => rfl
  | cons e rest ih =>
    simp only [List.foldlM_cons, hentries e List.mem_cons_self]
    congr 1
    funext sofar
    exact ih sofar fun d hd => hentries d (List.mem_cons_of_mem _ hd)

theorem SameFor.solvencyUsing (h : SameFor now v l m) (usingMargin : Bool) :
    m.solvencyUsing s v now usingMargin = l.solvencyUsing s v now usingMargin := by
  unfold Ledger.solvencyUsing
  simp only [h.assessAll, marginContribution_congr h.configs]

theorem SameFor.solvency (h : SameFor now v l m) : m.solvency s v now = l.solvency s v now := by
  unfold Ledger.solvency
  rw [h.margin]
  exact h.solvencyUsing _

end Ledger

end MoneyMarket
