import MoneyMarket.Proofs.Ledger.Step
import MoneyMarket.Proofs.Table

/-!
# Going back to a checkpoint

Going back gives the records of the checkpoint, whatever has become of the ledger. Steps never drop
a record and put new ones last. Hence a ledger that went on by steps goes back to exactly what it
was, order included.
-/

namespace MoneyMarket.Ledger

/-- `m` has every record of `l`, in the same order, and new ones after them. -/
structure Extends (l m : Ledger) : Prop where
  reserves : l.reserves.keys <+: m.reserves.keys
  users : l.positions.keys <+: m.positions.keys
  positions : ∀ user, (l.userPositions user).keys <+: (m.userPositions user).keys

variable {l m n : Ledger}

theorem Extends.refl (l : Ledger) : Extends l l :=
  ⟨List.prefix_refl _, List.prefix_refl _, fun _ => List.prefix_refl _⟩

theorem Extends.trans (h : Extends l m) (h' : Extends m n) : Extends l n :=
  ⟨h.reserves.trans h'.reserves, h.users.trans h'.users,
    fun user => (h.positions user).trans (h'.positions user)⟩

theorem extends_setReserve (l : Ledger) (a : Key) (r : Reserve) : Extends l (l.setReserve a r) :=
  ⟨Table.keys_prefix_set _ _ _, List.prefix_refl _, fun _ => List.prefix_refl _⟩

theorem extends_setPosition (l : Ledger) (u a : Key) (p : Position) :
    Extends l (l.setPosition u a p) := by
  refine ⟨List.prefix_refl _, Table.keys_prefix_set _ _ _, fun user => ?_⟩
  rw [userPositions_setPosition]
  split
  · rename_i h
    subst h
    exact Table.keys_prefix_set _ _ _
  · exact List.prefix_refl _

theorem Step.extends {loans : Prop} (h : Step loans l m) : Extends l m := by
  cases h with
  | accrue | money | average => exact extends_setReserve _ _ _
  | @move user asset =>
    have hopen : Extends l (l.openPosition user asset) := extends_setPosition _ _ _ _
    exact hopen.trans ((extends_setReserve _ _ _).trans (extends_setPosition _ _ _ _))
  | handOver => exact (extends_setPosition _ _ _ _).trans (extends_setPosition _ _ _ _)
  | credit => exact (extends_setPosition _ _ _ _).trans (extends_setReserve _ _ _)
  | openPosition | switch => exact extends_setPosition _ _ _ _
  | switchMargin =>
    exact ⟨List.prefix_refl _, List.prefix_refl _, fun _ => List.prefix_refl _⟩

theorem Steps.extends {loans : Prop} (h : Steps loans l m) : Extends l m := by
  refine h.preserves (I := Extends l) ?_ (.refl l)
  intro _ _ hstep hl
  exact hl.trans hstep.extends

theorem Extends.listed (h : Extends l m) {a : Key} {r : Reserve} (hr : l.reserve? a = some r) :
    ∃ s, m.reserve? a = some s := by
  rw [← Option.isSome_iff_exists, ← Option.ne_none_iff_isSome]
  intro hnone
  have hkey : a ∈ l.reserves.keys := by
    by_contra hkey
    have hnone : l.reserve? a = none := Entries.find?_eq_none_iff.2 hkey
    simp [hr] at hnone
  exact Entries.find?_eq_none_iff.1 hnone (h.reserves.subset hkey)

/-! ## Restoring -/

theorem userPositions_eq {user : Key} {positions : Table Key Position}
    (h : (user, positions) ∈ l.positions.entries) : l.userPositions user = positions := by
  have hget : l.positions.get? user = some positions := Table.get?_of_mem h
  rw [userPositions, hget]
  rfl

theorem Extends.restore (h : Extends l m) : m.restore l = l := by
  have hreserves : m.reserves.restore l.reserves = l.reserves :=
    Table.restore_of_prefix h.reserves
  have husers : m.positions.restore l.positions = l.positions := Table.restore_of_prefix h.users
  have hpositions : l.positions.map (fun user positions =>
      (m.userPositions user).restore positions) = l.positions := by
    refine Table.map_eq_self fun e he => Table.restore_of_prefix ?_
    rw [← userPositions_eq he]
    exact h.positions e.1
  unfold Ledger.restore
  rw [hreserves, husers, hpositions]

/-! ## Records -/

/-- The ledgers have the same records, in whatever order. -/
structure SameRecords (l m : Ledger) : Prop where
  reserves : ∀ a, m.reserve? a = l.reserve? a
  users : ∀ u, m.positions.contains u = l.positions.contains u
  positions : ∀ u a, m.position? u a = l.position? u a
  margin : ∀ u, m.usesMargin u = l.usesMargin u

theorem SameRecords.refl (l : Ledger) : SameRecords l l :=
  ⟨fun _ => rfl, fun _ => rfl, fun _ _ => rfl, fun _ => rfl⟩

theorem SameRecords.symm (h : SameRecords l m) : SameRecords m l :=
  ⟨fun a => (h.reserves a).symm, fun u => (h.users u).symm, fun u a => (h.positions u a).symm,
    fun u => (h.margin u).symm⟩

theorem SameRecords.trans (h : SameRecords l m) (h' : SameRecords m n) : SameRecords l n where
  reserves a := (h'.reserves a).trans (h.reserves a)
  users u := (h'.users u).trans (h.users u)
  positions u a := (h'.positions u a).trans (h.positions u a)
  margin u := (h'.margin u).trans (h.margin u)

theorem contains_of_position? {u a : Key} (h : (l.position? u a).isSome) :
    l.positions.contains u := by
  unfold position? userPositions at h
  unfold Table.contains
  cases hu : l.positions.get? u with
  | none =>
    rw [hu] at h
    exact h
  | some _ => rfl

theorem restore_sameRecords (live saved : Ledger) : SameRecords saved (live.restore saved) := by
  have hget (u : Key) : (live.restore saved).positions.get? u =
      (saved.positions.get? u).map (live.userPositions u).restore := by
    unfold Ledger.restore
    rw [Table.get?_map, Table.get?_restore]
  refine ⟨fun a => Table.get?_restore _ _ a, ?_, ?_, fun _ => rfl⟩
  · intro u
    unfold Table.contains
    rw [hget, Option.isSome_map]
  · intro u a
    unfold position? userPositions
    rw [hget]
    cases saved.positions.get? u with
    | none => rfl
    | some ps => exact Table.get?_restore _ ps a

end MoneyMarket.Ledger
