import MoneyMarket.Ledger.Booking
import MoneyMarket.Proofs.Ledger.Rollback
import MoneyMarket.Proofs.Progress

/-!
# Sessions

A session goes on by edits of its ledger, by taking checkpoints and by going back to them. Going back
always gives the records that the checkpoint has by then. These are the ones that were saved unless
an edit has leaked into the checkpoint: after a record was put back, both have it in common, and
going back once more does not undo what was done to it since.
-/

namespace MoneyMarket

namespace Ledger

variable {l m : Ledger} {k key : Ledger.RecordKey}

/-! ## Records by key -/

def record? (l : Ledger) : RecordKey → Option (Reserve ⊕ Position)
  | .reserve asset => (l.reserve? asset).map .inl
  | .position user asset => (l.position? user asset).map .inr

theorem has_eq (l : Ledger) (k : RecordKey) : l.has k = (l.record? k).isSome := by
  cases k <;> exact (Option.isSome_map ..).symm

theorem record?_setReserve (l : Ledger) (a : Key) (r : Reserve) (k : RecordKey) :
    (l.setReserve a r).record? k = if k = .reserve a then some (.inl r) else l.record? k := by
  cases k with
  | reserve b => by_cases hb : b = a <;> simp [record?, hb]
  | position => simp [record?]

theorem record?_setPosition (l : Ledger) (u a : Key) (p : Position) (k : RecordKey) :
    (l.setPosition u a p).record? k = if k = .position u a then some (.inr p) else l.record? k := by
  cases k with
  | reserve => simp [record?]
  | position v b => by_cases hb : v = u ∧ b = a <;> simp [record?, hb]

theorem SameRecords.record? (h : SameRecords l m) (k : RecordKey) : m.record? k = l.record? k := by
  cases k with
  | reserve asset => exact congrArg (Option.map Sum.inl) (h.reserves asset)
  | position user asset => exact congrArg (Option.map Sum.inr) (h.positions user asset)

theorem has_of_mem_recordKeys (h : k ∈ l.recordKeys) : l.has k := by
  rcases List.mem_append.1 h with h | h
  · obtain ⟨asset, ha, rfl⟩ := List.mem_map.1 h
    obtain ⟨e, he, rfl⟩ := List.mem_map.1 ha
    exact Option.isSome_of_eq_some (Table.get?_of_mem he)
  · obtain ⟨e, he, h⟩ := List.mem_flatMap.1 h
    obtain ⟨asset, ha, rfl⟩ := List.mem_map.1 h
    obtain ⟨d, hd, rfl⟩ := List.mem_map.1 ha
    have hget : l.position? e.1 d.1 = some d.2 := by
      rw [position?, userPositions_eq he]
      exact Table.get?_of_mem hd
    exact Option.isSome_of_eq_some hget

/-! ## Copies -/

theorem record?_copyRecord (source target : Ledger) (key k : RecordKey) :
    (source.copyRecord target key).record? k =
      if k = key ∧ source.has key then source.record? k else target.record? k := by
  cases key with
  | reserve asset =>
    cases hr : source.reserve? asset with
    | none => simp [copyRecord, has, hr]
    | some r =>
      simp only [copyRecord, has, hr, record?_setReserve, Option.isSome_some, and_true]
      split
      · rename_i hk
        rw [hk, record?, hr]
        rfl
      · rfl
  | position user asset =>
    cases hp : source.position? user asset with
    | none => simp [copyRecord, has, hp]
    | some p =>
      simp only [copyRecord, has, hp, record?_setPosition, Option.isSome_some, and_true]
      split
      · rename_i hk
        rw [hk, record?, hp]
        rfl
      · rfl

theorem setReserve_sameRecords {a : Key} {r : Reserve} (h : l.reserve? a = some r) :
    SameRecords l (l.setReserve a r) := by
  unfold setReserve
  rw [Table.set_get? h]
  exact .refl l

theorem setPosition_sameRecords {u a : Key} {p : Position} (h : l.position? u a = some p) :
    SameRecords l (l.setPosition u a p) := by
  refine ⟨fun _ => rfl, ?_, ?_, fun _ => rfl⟩
  · intro v
    have hu : l.positions.contains u := contains_of_position? (Option.isSome_of_eq_some h)
    unfold setPosition Table.contains at *
    rw [Table.get?_set]
    split
    · rename_i hv
      rw [hv, hu]
      rfl
    · rfl
  · intro v b
    rw [position?_setPosition]
    split
    · rename_i hvb
      rw [hvb.1, hvb.2, h]
    · rfl

theorem copyRecord_sameRecords {source : Ledger}
    (h : source.has key → source.record? key = l.record? key) :
    SameRecords l (source.copyRecord l key) := by
  cases key with
  | reserve asset =>
    cases hr : source.reserve? asset with
    | none =>
      simp only [copyRecord, hr]
      exact .refl l
    | some r =>
      have hsame : some (.inl r) = l.record? (.reserve asset) := by
        rw [← h (by simp [has, hr]), record?, hr]
        rfl
      obtain ⟨s, hs, hrs⟩ := Option.map_eq_some_iff.1 hsame.symm
      cases hrs
      simp only [copyRecord, hr]
      exact setReserve_sameRecords hs
  | position user asset =>
    cases hp : source.position? user asset with
    | none =>
      simp only [copyRecord, hp]
      exact .refl l
    | some p =>
      have hsame : some (.inr p) = l.record? (.position user asset) := by
        rw [← h (by simp [has, hp]), record?, hp]
        rfl
      obtain ⟨q, hq, hpq⟩ := Option.map_eq_some_iff.1 hsame.symm
      cases hpq
      simp only [copyRecord, hp]
      exact setPosition_sameRecords hq

/-! ## Checkpoints -/

/-- A checkpoint after the ledger has changed: what it shares with the ledger has changed, too. -/
def refreshed (ledger : Ledger) (shared : List SharedRecord) (i : Nat) (saved : Ledger) : Ledger :=
  shared.foldl (fun c link => if link.checkpoint = i then ledger.copyRecord c link.key else c) saved

variable {ledger saved : Ledger} {shared : List SharedRecord} {i : Nat}

theorem record?_refreshed (ledger : Ledger) (shared : List SharedRecord) (i : Nat)
    (saved : Ledger) (k : RecordKey) : (ledger.refreshed shared i saved).record? k =
      if ⟨k, i⟩ ∈ shared ∧ ledger.has k then ledger.record? k else saved.record? k := by
  induction shared generalizing saved with
  | nil => simp [refreshed]
  | cons link rest ih =>
    obtain ⟨key, j⟩ := link
    show (ledger.refreshed rest i _).record? k = _
    rw [ih]
    by_cases hj : j = i
    · subst hj
      by_cases hk : k = key
      · subst hk
        by_cases hhas : ledger.has k <;> simp [record?_copyRecord, hhas]
      · simp [record?_copyRecord, hk]
    · have hj' : i ≠ j := fun h => hj h.symm
      simp [hj, hj']

theorem refreshed_sameRecords (h : ∀ key, ⟨key, i⟩ ∈ shared → ledger.has key →
    ledger.record? key = saved.record? key) : SameRecords saved (ledger.refreshed shared i saved) := by
  induction shared generalizing saved with
  | nil => exact .refl saved
  | cons link rest ih =>
    obtain ⟨key, j⟩ := link
    show SameRecords saved (ledger.refreshed rest i _)
    have hfirst : SameRecords saved (if j = i then ledger.copyRecord saved key else saved) := by
      split
      · rename_i hj
        exact copyRecord_sameRecords (h key (hj ▸ List.mem_cons_self))
      · exact .refl saved
    refine hfirst.trans (ih fun key' hkey' hhas => ?_)
    rw [hfirst.record?]
    exact h key' (List.mem_cons_of_mem _ hkey') hhas

end Ledger

namespace Session

open MoneyMarket.Ledger

variable {s : Session} {l saved : Ledger} {i j : Nat}

theorem checkpoints_update (s : Session) (ledger : Ledger) (i : Nat) :
    (s.update ledger).checkpoints[i]? =
      (s.checkpoints[i]?).map (ledger.refreshed s.shared i) := by
  show (s.shared.foldl _ s.checkpoints)[i]? = _
  generalize s.checkpoints = checkpoints
  induction s.shared generalizing checkpoints with
  | nil => exact Option.map_id'.symm
  | cons link rest ih =>
    rw [List.foldl_cons, ih, List.getElem?_modify]
    cases checkpoints[i]? with
    | none => rfl
    | some c =>
      show some (ledger.refreshed rest i _) = some (ledger.refreshed rest i _)
      congr 1

/-! ## Steps -/

/-- What is done to a ledger between checkpoints. A record that is written in place stays the record
that it was. -/
inductive Edit where
  | book (asset : Name) (booking : Booking)
  | setReserve (asset : Key) (r : Reserve)
  | setPosition (user asset : Key) (p : Position)
  | dropReserve (asset : Key)
  | dropPosition (user asset : Key)
  | setUsesMargin (user : Key) (enabled : Bool)

def Edit.apply (l : Ledger) : Edit → Ledger
  | .book asset booking => (l.book asset booking).state
  | .setReserve asset r => l.setReserve asset r
  | .setPosition user asset p => l.setPosition user asset p
  | .dropReserve asset => l.dropReserve asset
  | .dropPosition user asset => l.dropPosition user asset
  | .setUsesMargin user enabled => l.setUsesMargin user enabled

inductive Step where
  | edit (e : Edit)
  | checkpoint
  | restore (index : Nat)

def after (s : Session) : Step → Session
  | .edit e => s.update (e.apply s.ledger)
  | .checkpoint => s.checkpoint.1
  | .restore index => s.restore index

def run (s : Session) (steps : List Step) : Session := steps.foldl after s

def Linked (s : Session) : Prop :=
  ∀ link ∈ s.shared, ∃ saved, s.checkpoints[link.checkpoint]? = some saved ∧
    s.ledger.has link.key ∧ s.ledger.record? link.key = saved.record? link.key

/-- The step changes a record that the ledger shares with checkpoint `i`. -/
def Leaks (s : Session) (i : Nat) (step : Step) : Prop :=
  ∃ link ∈ s.shared, link.checkpoint = i ∧ (s.after step).ledger.has link.key ∧
    (s.after step).ledger.record? link.key ≠ s.ledger.record? link.key

instance (s : Session) (i : Nat) (step : Step) : Decidable (s.Leaks i step) :=
  inferInstanceAs (Decidable (∃ link ∈ s.shared, _))

theorem Linked.update (h : Linked s) (ledger : Ledger) : Linked (s.update ledger) := by
  intro link hlink
  obtain ⟨hlink, hhas⟩ := List.mem_filter.1 hlink
  obtain ⟨saved, hsaved, _⟩ := h link hlink
  refine ⟨ledger.refreshed s.shared link.checkpoint saved, ?_, hhas, ?_⟩
  · rw [checkpoints_update, hsaved]
    rfl
  · rw [record?_refreshed, if_pos ⟨hlink, hhas⟩]
    rfl

theorem Linked.restore (h : Linked s) (index : Nat) : Linked (s.restore index) := by
  unfold Session.restore
  split
  · exact h
  · rename_i saved hsaved
    intro link hlink
    rcases List.mem_append.1 hlink with hold | hnew
    · exact h.update _ link hold
    · obtain ⟨key, hkey, rfl⟩ := List.mem_map.1 hnew
      have hhas : saved.has key := has_of_mem_recordKeys (List.mem_filter.1 hkey).1
      have hback := restore_sameRecords s.ledger saved
      refine ⟨(s.ledger.restore saved).refreshed s.shared index saved, ?_, ?_, ?_⟩
      · show (s.update _).checkpoints[index]? = _
        rw [checkpoints_update, hsaved]
        rfl
      · show (s.ledger.restore saved).has key
        rw [has_eq, hback.record?, ← has_eq]
        exact hhas
      · -- going back does not change the checkpoint
        have hkept : SameRecords saved ((s.ledger.restore saved).refreshed s.shared index saved) :=
          refreshed_sameRecords fun key _ _ => hback.record? key
        show (s.ledger.restore saved).record? key = _
        rw [hback.record?, hkept.record?]

theorem Linked.checkpoint (h : Linked s) : Linked s.checkpoint.1 := by
  intro link hlink
  obtain ⟨saved, hsaved, hsame⟩ := h link hlink
  refine ⟨saved, ?_, hsame⟩
  show (s.checkpoints ++ [s.ledger])[link.checkpoint]? = some saved
  rw [List.getElem?_append_left (List.getElem?_eq_some_iff.1 hsaved).1, hsaved]

theorem Linked.after (h : Linked s) (step : Step) : Linked (s.after step) := by
  cases step with
  | edit => exact h.update _
  | checkpoint => exact h.checkpoint
  | restore => exact h.restore _

theorem linked_run (h : Linked s) (steps : List Step) : Linked (s.run steps) := by
  induction steps generalizing s with
  | nil => exact h
  | cons step rest ih => exact ih (h.after step)

/-! ## Leaks -/

/-- A change of the ledger reaches a checkpoint exactly where it leaks into it. -/
theorem sameRecords_refreshed_iff {ledger : Ledger} (h : Linked s)
    (hsaved : s.checkpoints[i]? = some saved) :
    SameRecords saved (ledger.refreshed s.shared i saved) ↔
      ¬ ∃ link ∈ s.shared, link.checkpoint = i ∧ ledger.has link.key ∧
        ledger.record? link.key ≠ s.ledger.record? link.key := by
  have hshared : ∀ key, ⟨key, i⟩ ∈ s.shared → s.ledger.record? key = saved.record? key := by
    intro key hkey
    obtain ⟨c, hc, _, hsame⟩ := h _ hkey
    rw [hsaved] at hc
    cases hc
    exact hsame
  constructor
  · rintro hsame ⟨⟨key, j⟩, hlink, rfl, hhas, hchanged⟩
    apply hchanged
    have hrecord := hsame.record? key
    rw [record?_refreshed, if_pos ⟨hlink, hhas⟩] at hrecord
    rw [hrecord, hshared key hlink]
  · intro hkept
    refine refreshed_sameRecords fun key hlink hhas => ?_
    by_contra hchanged
    exact hkept ⟨⟨key, i⟩, hlink, rfl, hhas, hshared key hlink ▸ hchanged⟩

theorem after_checkpoint_iff (h : Linked s) (hsaved : s.checkpoints[i]? = some saved)
    (step : Step) : ∃ c, (s.after step).checkpoints[i]? = some c ∧
      (SameRecords saved c ↔ ¬ s.Leaks i step) := by
  have refresh (ledger : Ledger) : (s.update ledger).checkpoints[i]? =
      some (ledger.refreshed s.shared i saved) := by
    rw [checkpoints_update, hsaved]
    rfl
  cases step with
  | edit e => exact ⟨_, refresh _, sameRecords_refreshed_iff h hsaved⟩
  | checkpoint =>
    refine ⟨saved, ?_, iff_of_true (.refl saved) ?_⟩
    · show (s.checkpoints ++ [s.ledger])[i]? = some saved
      rw [List.getElem?_append_left (List.getElem?_eq_some_iff.1 hsaved).1, hsaved]
    · rintro ⟨_, _, _, _, hchanged⟩
      exact hchanged rfl
  | restore index =>
    cases hindex : s.checkpoints[index]? with
    | none =>
      have hnothing : s.restore index = s := by simp only [Session.restore, hindex]
      have hkept : ¬ s.Leaks i (.restore index) := by
        rintro ⟨_, _, _, _, hchanged⟩
        exact hchanged (congrArg (fun t : Session => t.ledger.record? _) hnothing)
      refine ⟨saved, ?_, iff_of_true (.refl saved) hkept⟩
      show (s.restore index).checkpoints[i]? = some saved
      rw [hnothing, hsaved]
    | some c =>
      have hledger : (s.after (.restore index)).ledger = s.ledger.restore c := by
        simp only [after, Session.restore, hindex, update]
      have hcheckpoints : (s.restore index).checkpoints[i]? =
          some ((s.ledger.restore c).refreshed s.shared i saved) := by
        rw [← refresh]
        simp only [Session.restore, hindex]
      refine ⟨_, hcheckpoints, ?_⟩
      unfold Leaks
      rw [hledger]
      exact sameRecords_refreshed_iff h hsaved

def NeverLeaks (s : Session) (i : Nat) : List Step → Prop
  | [] => True
  | step :: rest => ¬ s.Leaks i step ∧ NeverLeaks (s.after step) i rest

instance decidableNeverLeaks (s : Session) (i : Nat) :
    (steps : List Step) → Decidable (s.NeverLeaks i steps)
  | [] => .isTrue trivial
  | _ :: rest => @instDecidableAnd _ _ _ (decidableNeverLeaks (s.after _) i rest)

/-- Going back to checkpoint `i` puts no record back. -/
def NothingMissing (s : Session) (i : Nat) : Prop :=
  ∀ saved ∈ s.checkpoints[i]?, s.missingKeys saved = []

/-! ## Runs -/

theorem sameRecords_restore_iff {c : Ledger} (hc : s.checkpoints[i]? = some c) :
    SameRecords l (s.restore i).ledger ↔ SameRecords l c := by
  have hledger : (s.restore i).ledger = s.ledger.restore c := by
    simp only [Session.restore, hc, update]
  have hback := restore_sameRecords s.ledger c
  rw [hledger]
  exact ⟨fun h => h.trans hback.symm, fun h => h.trans hback⟩

/-- A checkpoint is what was saved until something leaks into it. -/
theorem restorable_iff {c : Ledger} (h : Linked s) (hc : s.checkpoints[i]? = some c)
    (hsame : SameRecords l c) (steps : List Step) :
    (∀ before, before <+: steps → SameRecords l ((s.run before).restore i).ledger) ↔
      s.NeverLeaks i steps := by
  have hnil (t : Session) : t.NeverLeaks i [] := trivial
  have hcons (t : Session) (step : Step) (rest : List Step) : t.NeverLeaks i (step :: rest) ↔
      ¬ t.Leaks i step ∧ (t.after step).NeverLeaks i rest := .rfl
  have hstep (t : Session) (step : Step) (_ : List Step)
      (hlive : Linked t ∧ ∃ c, t.checkpoints[i]? = some c)
      (hsaved : SameRecords l (t.restore i).ledger) :
      (SameRecords l ((t.after step).restore i).ledger ↔ ¬ t.Leaks i step) ∧
        Linked (t.after step) ∧ ∃ c, (t.after step).checkpoints[i]? = some c := by
    obtain ⟨hlinked, d, hd⟩ := hlive
    obtain ⟨d', hd', hkept⟩ := after_checkpoint_iff hlinked hd step
    have hsame := (sameRecords_restore_iff hd).1 hsaved
    refine ⟨?_, hlinked.after step, d', hd'⟩
    rw [sameRecords_restore_iff hd', ← hkept]
    exact ⟨fun h => hsame.symm.trans h, fun h => hsame.trans h⟩
  exact always_iff_never (I := fun t => SameRecords l (t.restore i).ledger)
    (C := fun t _ => Linked t ∧ ∃ c, t.checkpoints[i]? = some c) hnil hcons hstep ⟨h, c, hc⟩
    ((sameRecords_restore_iff hc).2 hsame)

def Unshared (s : Session) (i : Nat) : Prop := ∀ link ∈ s.shared, link.checkpoint ≠ i

theorem Unshared.after (h : s.Unshared i) {step : Step}
    (hstep : step = .restore i → s.NothingMissing i) : (s.after step).Unshared i := by
  have update (ledger : Ledger) : (s.update ledger).Unshared i :=
    fun link hlink => h link (List.mem_filter.1 hlink).1
  cases step with
  | edit => exact update _
  | checkpoint => exact h
  | restore index =>
    show (s.restore index).Unshared i
    unfold Session.restore
    split
    · exact h
    · rename_i saved hsaved
      intro link hlink
      rcases List.mem_append.1 hlink with hold | hnew
      · exact update _ link hold
      · obtain ⟨key, hkey, rfl⟩ := List.mem_map.1 hnew
        rintro rfl
        rw [hstep rfl saved hsaved] at hkey
        cases hkey

theorem Unshared.neverLeaks {steps : List Step} (h : s.Unshared i)
    (hsteps : ∀ before, before ++ [.restore i] <+: steps → (s.run before).NothingMissing i) :
    s.NeverLeaks i steps := by
  induction steps generalizing s with
  | nil => trivial
  | cons step rest ih =>
    refine ⟨fun ⟨link, hlink, hi, _⟩ => h link hlink hi, ih (h.after ?_) ?_⟩
    · rintro rfl
      exact hsteps [] ⟨rest, rfl⟩
    · intro before hbefore
      exact hsteps (step :: before) (List.cons_prefix_cons.2 ⟨rfl, hbefore⟩)

/-- **Going back.** All along a session, going back to a checkpoint gives the records that were saved,
exactly when no step changes a record that an earlier going back to it has put into the ledger. So it
is as long as whenever the session goes back to it, none of its records has been dropped. -/
theorem checkpoint_restorable_iff (l : Ledger) (earlier later : List Step) :
    let s := run { ledger := l } earlier
    let (t, i) := s.checkpoint
    ((∀ before, before <+: later → SameRecords s.ledger ((t.run before).restore i).ledger) ↔
      t.NeverLeaks i later) ∧
    ((∀ before, before ++ [.restore i] <+: later → (t.run before).NothingMissing i) →
      t.NeverLeaks i later) := by
  intro s
  have hlinked : Linked s := linked_run (s := { ledger := l }) (fun _ hlink => by cases hlink) earlier
  have hsaved : s.checkpoint.1.checkpoints[s.checkpoints.length]? = some s.ledger :=
    List.getElem?_concat_length
  refine ⟨restorable_iff hlinked.checkpoint hsaved (.refl s.ledger) later, Unshared.neverLeaks ?_⟩
  -- the new checkpoint has a number that no shared record refers to
  intro link hlink hi
  obtain ⟨c, hc, _⟩ := hlinked link hlink
  have hlt : link.checkpoint < s.checkpoints.length := (List.getElem?_eq_some_iff.1 hc).1
  omega

def supplied (amount : Int) : Edit :=
  .setPosition (.text "ana") (.text "DAI") { asset := .text "DAI", scaledBalance := amount }

/-- Records are changed, made and dropped between goings back to two checkpoints, the first of which
finds all that it needs. -/
def changedAndMade : List Step :=
  [.edit (supplied 7), .restore 0, .edit (.setUsesMargin (.text "ana") true), .checkpoint,
    .edit (.setPosition (.text "ben") (.text "DAI") { asset := .text "DAI" }), .restore 0,
    .edit (supplied 9), .restore 1, .edit (.dropPosition (.text "ana") (.text "DAI"))]

theorem changedAndMade_restorable :
    let s := run { ledger := {} } [.edit (supplied 5)]
    let (t, i) := s.checkpoint
    t.NeverLeaks i changedAndMade ∧
    ∀ before, before <+: changedAndMade → SameRecords s.ledger ((t.run before).restore i).ledger := by
  have hnever : (run { ledger := {} } [.edit (supplied 5)]).checkpoint.1.NeverLeaks 0
      changedAndMade := by decide +kernel
  exact ⟨hnever, (checkpoint_restorable_iff {} [.edit (supplied 5)] changedAndMade).1.2 hnever⟩

def putBackAndChanged : List Step :=
  [.edit (.dropPosition (.text "ana") (.text "DAI")), .restore 0, .edit (supplied 7)]

/-- Going back once gives what was saved; going back again does not. -/
theorem putBackAndChanged_leaks :
    let s := run { ledger := {} } [.edit (supplied 5)]
    let (t, i) := s.checkpoint
    let balance (u : Session) := (u.ledger.position? (.text "ana") (.text "DAI")).map (·.scaledBalance)
    balance s = some 5 ∧ balance (t.run (putBackAndChanged.take 2)) = some 5 ∧
    balance ((t.run putBackAndChanged).restore i) = some 7 ∧
    ¬ SameRecords s.ledger ((t.run putBackAndChanged).restore i).ledger := by
  refine ⟨by decide +kernel, by decide +kernel, by decide +kernel, fun h => ?_⟩
  have hsame := h.positions (.text "ana") (.text "DAI")
  revert hsame
  decide +kernel

end Session

end MoneyMarket
