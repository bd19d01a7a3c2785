import MoneyMarket.MarginFeed
import MoneyMarket.Proofs.Progress
import Mathlib.Data.List.FinRange
import Mathlib.Data.List.Pairwise

/-!
# The newest report

The feed compares a report with nothing but the snapshot that is stored. What is stored is then, for
each account, the last of its reports under the highest number so far, whether the reports came one by
one or in bulk. So the order in which they came does not matter as long as no two reports on one
account have the same number.
-/

namespace MoneyMarket

/-! ## Reports -/

namespace MarginReport

/-- The report says what the snapshot holds, in whole numbers of which only the mark to market may be
negative. -/
structure Says (r : MarginReport) (s : MarginSnapshot) : Prop where
  maintenanceMargin : r.maintenanceMargin = .whole s.maintenanceMargin ∧ 0 ≤ s.maintenanceMargin
  markToMarket : r.markToMarket = .whole s.markToMarket
  collateral : r.collateral = .whole s.collateral ∧ 0 ≤ s.collateral
  valueAtRisk : r.valueAtRisk = .whole s.valueAtRisk ∧ 0 ≤ s.valueAtRisk

variable {r : MarginReport} {s : MarginSnapshot} {account : Name} {sequence : Int}

theorem wholeField_ok_iff {name : String} {v : Reported} {n : Int} :
    wholeField account name v = .ok n ↔ v = .whole n := by
  unfold wholeField
  cases v <;> simp [Reported.whole?]

theorem requireNonNegative_ok_iff {name : String} {n : Int} {u : Unit} :
    requireNonNegative account name n = .ok u ↔ 0 ≤ n := by
  unfold requireNonNegative
  split
  · exact iff_of_false nofun (by omega)
  · exact iff_of_true rfl (by omega)

/-- The check lets exactly the reports through that say something, with what they say. -/
theorem checked_ok_iff :
    r.checked account sequence = .ok s ↔ r.Says s ∧ s.sequence = sequence := by
  simp only [checked, bind_ok_iff, wholeField_ok_iff, requireNonNegative_ok_iff, pure_ok_iff]
  constructor
  · rintro ⟨m, hm, t, ht, c, hc, v, hv, -, hm', -, hc', -, hv', rfl⟩
    exact ⟨⟨⟨hm, hm'⟩, ht, ⟨hc, hc'⟩, ⟨hv, hv'⟩⟩, rfl⟩
  · rintro ⟨⟨⟨hm, hm'⟩, ht, ⟨hc, hc'⟩, ⟨hv, hv'⟩⟩, rfl⟩
    exact ⟨_, hm, _, ht, _, hc, _, hv, (), hm', (), hc', (), hv', rfl⟩

end MarginReport

namespace MarginFeed

/-! ## Pushes -/

structure Push where
  account : Name
  report : MarginReport
  sequence : Int

def Push.Carries (p : Push) (s : MarginSnapshot) : Prop :=
  p.report.Says s ∧ s.sequence = p.sequence

def Push.Valid (p : Push) : Prop := ∃ s, p.Carries s

/-- No earlier push for the account came under a higher number. -/
def Current (earlier : List Push) (p : Push) : Prop :=
  ∀ q ∈ earlier, q.account.key = p.account → q.sequence ≤ p.sequence

instance (earlier : List Push) (p : Push) : Decidable (Current earlier p) :=
  inferInstanceAs (Decidable (∀ q ∈ earlier, q.account.key = p.account → q.sequence ≤ p.sequence))

def currentCount (earlier pushes : List Push) : Nat :=
  (List.finRange pushes.length).countP fun i : Fin _ => Current (earlier ++ pushes.take i) pushes[i]

/-! ## Calls -/

def batch (updates : List (Name × MarginReport)) (sequence : Int) : List Push :=
  updates.map fun u => ⟨u.1, u.2, sequence⟩

inductive Call where
  | single (push : Push)
  | bulk (updates : List (Name × MarginReport)) (sequence : Int)

namespace Call

def pushes : Call → List Push
  | single p => [p]
  | bulk updates sequence => batch updates sequence

/-- The feed after the call. A bulk call keeps what came before a bad report. -/
def after (f : MarginFeed) : Call → MarginFeed
  | single p =>
    match f.push p.account p.report p.sequence with
    | .ok (g, _) => g
    | .error _ => f
  | bulk updates sequence => (f.pushAll updates sequence).state.1

/-- The call does not fail, and what it answers is right: whether its push was current, or how many
of its pushes were. -/
def Answered (f : MarginFeed) (earlier : List Push) : Call → Prop
  | single p => ∃ g, f.push p.account p.report p.sequence = .ok (g, decide (Current earlier p))
  | bulk updates sequence =>
    (f.pushAll updates sequence).fault = none ∧
      (f.pushAll updates sequence).state.2 = currentCount earlier (batch updates sequence)

end Call

def sent (calls : List Call) : List Push := calls.flatMap Call.pushes

def feedAfter (calls : List Call) : MarginFeed := calls.foldl (fun f c => c.after f) {}

/-! ## The newest push -/

/-- The last of the pushes for the account under the highest number there is for it. -/
structure Newest (pushes : List Push) (account : Key) (p : Push) : Prop where
  own : p.account.key = account
  highest : ∀ q ∈ pushes, q.account.key = account → q.sequence ≤ p.sequence
  last : ∃ before after, pushes = before ++ p :: after ∧
    ∀ q ∈ after, q.account.key = account → q.sequence ≠ p.sequence

variable {f : MarginFeed} {pushes : List Push} {account : Key} {p q : Push} {s t : MarginSnapshot}

theorem Push.Carries.unique (hs : p.Carries s) (ht : p.Carries t) : s = t := by
  obtain ⟨hs, hnumber⟩ := hs
  obtain ⟨ht, hnumber'⟩ := ht
  have hm := hs.maintenanceMargin.1.symm.trans ht.maintenanceMargin.1
  have hmark := hs.markToMarket.symm.trans ht.markToMarket
  have hc := hs.collateral.1.symm.trans ht.collateral.1
  have hv := hs.valueAtRisk.1.symm.trans ht.valueAtRisk.1
  cases s
  cases t
  simp_all

theorem currentCount_cons (earlier : List Push) (p : Push) (rest : List Push) :
    currentCount earlier (p :: rest) =
      (if Current earlier p then 1 else 0) + currentCount (earlier ++ [p]) rest := by
  have hpositions : List.finRange (p :: rest).length =
      ⟨0, Nat.succ_pos _⟩ :: (List.finRange rest.length).map Fin.succ := List.finRange_succ
  have hlater (i : Fin rest.length) :
      Current (earlier ++ (p :: rest).take i.succ) (p :: rest)[i.succ] ↔
        Current (earlier ++ [p] ++ rest.take i) rest[i] := by simp
  unfold currentCount
  rw [hpositions, List.countP_cons, List.countP_map, Nat.add_comm]
  congr 1
  · simp
  · apply List.countP_congr
    intro i _
    rw [Function.comp_apply, decide_eq_true_iff, decide_eq_true_iff]
    exact hlater i

namespace Newest

theorem mem (h : Newest pushes account p) : p ∈ pushes := by
  obtain ⟨before, after, rfl, -⟩ := h.last
  exact List.mem_append_right _ List.mem_cons_self

theorem unique (hp : Newest pushes account p) (hq : Newest pushes account q) : p = q := by
  have hsame : p.sequence = q.sequence :=
    le_antisymm (hq.highest p hp.mem hp.own) (hp.highest q hq.mem hq.own)
  obtain ⟨before, after, rfl, hafter⟩ := hp.last
  obtain ⟨before', after', heq, hafter'⟩ := hq.last
  -- The one that came first is followed by the other, under the same number.
  rcases List.append_eq_append_iff.1 heq with ⟨between, rfl, h⟩ | ⟨between, rfl, h⟩
  · cases between with
    | nil => exact (List.cons.inj h).1
    | cons _ between =>
      obtain ⟨-, rfl⟩ := List.cons.inj h
      exact absurd hsame.symm (hafter q (by simp) hq.own)
  · cases between with
    | nil => exact (List.cons.inj h).1.symm
    | cons _ between =>
      obtain ⟨-, rfl⟩ := List.cons.inj h
      exact absurd hsame (hafter' p (by simp) hp.own)

theorem current_iff (h : Newest pushes q.account p) : Current pushes q ↔ p.sequence ≤ q.sequence :=
  ⟨fun hq => hq p h.mem h.own, fun hle r hr hown => (h.highest r hr hown).trans hle⟩

theorem of_current (h : Current pushes p) : Newest (pushes ++ [p]) p.account p where
  own := rfl
  highest := List.forall_mem_append.2 ⟨h, List.forall_mem_singleton.2 fun _ => le_rfl⟩
  last := ⟨pushes, [], rfl, fun _ h => nomatch h⟩

theorem append (h : Newest pushes account p)
    (hq : q.account.key = account → q.sequence < p.sequence) : Newest (pushes ++ [q]) account p where
  own := h.own
  highest := List.forall_mem_append.2
    ⟨h.highest, List.forall_mem_singleton.2 fun hown => (hq hown).le⟩
  last := by
    obtain ⟨before, after, rfl, hafter⟩ := h.last
    exact ⟨before, after ++ [q], by simp, List.forall_mem_append.2
      ⟨hafter, List.forall_mem_singleton.2 fun hown => (hq hown).ne⟩⟩

end Newest

/-! ## What the feed keeps -/

/-- The feed holds the newest of the pushes for each account, and knows no other account. -/
structure Keeps (f : MarginFeed) (pushes : List Push) : Prop where
  newest : ∀ {account s}, f.snapshots.get? account = some s →
    ∃ p, Newest pushes account p ∧ p.Carries s
  unknown : ∀ {account}, f.snapshots.get? account = none → ∀ p ∈ pushes, p.account.key ≠ account

namespace Keeps

theorem empty : Keeps {} [] where
  newest h := nomatch h
  unknown _ _ h := nomatch h

theorem stored_iff (h : f.Keeps pushes) :
    f.snapshots.get? account = some s ↔ ∃ p, Newest pushes account p ∧ p.Carries s := by
  refine ⟨h.newest, ?_⟩
  rintro ⟨p, hp, hs⟩
  cases hget : f.snapshots.get? account with
  | none => exact absurd hp.own (h.unknown hget p hp.mem)
  | some t =>
    obtain ⟨q, hq, ht⟩ := h.newest hget
    cases hp.unique hq
    rw [hs.unique ht]

theorem isStale_iff (h : f.Keeps pushes) (p : Push) :
    f.isStale p.account p.sequence = true ↔ ¬ Current pushes p := by
  unfold isStale
  split
  · rename_i s hget
    obtain ⟨q, hq, -, hnumber⟩ := h.newest hget
    rw [hnumber, decide_eq_true_iff, hq.current_iff, Int.not_le]
  · rename_i hget
    have hcurrent : Current pushes p := fun q hq hown => absurd hown (h.unknown hget q hq)
    simp [hcurrent]

theorem stored (h : f.Keeps pushes) (hcurrent : Current pushes p) (hs : p.Carries s) :
    Keeps ⟨f.snapshots.set p.account s⟩ (pushes ++ [p]) where
  newest {account t} hget := by
    rw [Table.get?_set] at hget
    split at hget
    · rename_i hown
      subst hown
      cases hget
      exact ⟨p, .of_current hcurrent, hs⟩
    · rename_i hother
      obtain ⟨q, hq, ht⟩ := h.newest hget
      exact ⟨q, hq.append fun hown => absurd hown.symm hother, ht⟩
  unknown {account} hget := by
    rw [Table.get?_set] at hget
    split at hget
    · cases hget
    · rename_i hother
      exact List.forall_mem_append.2
        ⟨h.unknown hget, List.forall_mem_singleton.2 (Ne.symm hother)⟩

theorem ignored (h : f.Keeps pushes) (hcurrent : ¬ Current pushes p) : f.Keeps (pushes ++ [p]) where
  newest {account t} hget := by
    obtain ⟨q, hq, ht⟩ := h.newest hget
    refine ⟨q, hq.append fun hown => ?_, ht⟩
    subst hown
    exact Int.not_le.1 fun hle => hcurrent (hq.current_iff.2 hle)
  unknown {account} hget := by
    refine List.forall_mem_append.2 ⟨h.unknown hget, List.forall_mem_singleton.2 ?_⟩
    rintro rfl
    exact hcurrent fun q hq hown => absurd hown (h.unknown hget q hq)

theorem push (h : f.Keeps pushes) (hp : p.Valid) :
    ∃ g, f.push p.account p.report p.sequence = .ok (g, decide (Current pushes p)) ∧
      g.Keeps (pushes ++ [p]) := by
  obtain ⟨s, hs⟩ := hp
  have hchecked : p.report.checked p.account p.sequence = .ok s := MarginReport.checked_ok_iff.2 hs
  rw [push_checked hchecked]
  by_cases hcurrent : Current pushes p
  · have hstale : ¬ f.isStale p.account p.sequence = true := by
      rw [h.isStale_iff]
      exact not_not.2 hcurrent
    exact ⟨_, by rw [if_neg hstale, decide_eq_true hcurrent], h.stored hcurrent hs⟩
  · have hstale := (h.isStale_iff p).2 hcurrent
    exact ⟨f, by rw [if_pos hstale, decide_eq_false hcurrent], h.ignored hcurrent⟩

theorem counted {p : Push} (h : f.Keeps pushes) (hp : p.Valid) (count : Nat) :
    ∃ g, pushCounted p.sequence (p.account, p.report) (f, count) =
        .ok (g, count + if Current pushes p then 1 else 0) ∧ g.Keeps (pushes ++ [p]) := by
  obtain ⟨g, hpush, hg⟩ := h.push hp
  refine ⟨g, ?_, hg⟩
  rw [pushCounted, hpush]
  by_cases hcurrent : Current pushes p <;> simp [hcurrent]

theorem advance {updates : List (Name × MarginReport)} {sequence : Int} (h : f.Keeps pushes)
    (hvalid : ∀ p ∈ batch updates sequence, p.Valid) (count : Nat) :
    ∃ g, Stage.advance (updates.map (pushCounted sequence)) (f, count) =
        ⟨(g, count + currentCount pushes (batch updates sequence)), none⟩ ∧
      g.Keeps (pushes ++ batch updates sequence) := by
  induction updates generalizing f pushes count with
  | nil => exact ⟨f, rfl, by simpa [batch] using h⟩
  | cons u rest ih =>
    have hbatch : batch (u :: rest) sequence = ⟨u.1, u.2, sequence⟩ :: batch rest sequence := rfl
    rw [hbatch, List.forall_mem_cons] at hvalid
    obtain ⟨g, hfirst, hg⟩ := h.counted hvalid.1 count
    obtain ⟨g', hrest, hg'⟩ := ih hg hvalid.2 _
    rw [List.append_assoc, List.singleton_append] at hg'
    refine ⟨g', ?_, hg'⟩
    rw [hbatch, currentCount_cons, ← Nat.add_assoc, ← hrest, List.map_cons, Stage.advance, hfirst]

theorem call {c : Call} (h : f.Keeps pushes) (hvalid : ∀ p ∈ c.pushes, p.Valid) :
    c.Answered f pushes ∧ (c.after f).Keeps (pushes ++ c.pushes) := by
  cases c with
  | single p =>
    obtain ⟨g, hpush, hg⟩ := h.push (hvalid p List.mem_cons_self)
    have hafter : (Call.single p).after f = g := by rw [Call.after, hpush]
    refine ⟨⟨g, hpush⟩, ?_⟩
    rw [hafter]
    exact hg
  | bulk updates sequence =>
    obtain ⟨g, hall, hg⟩ := h.advance hvalid 0
    rw [Nat.zero_add] at hall
    have hafter : (Call.bulk updates sequence).after f = g := by rw [Call.after, pushAll, hall]
    constructor
    · rw [Call.Answered, pushAll, hall]
      exact ⟨rfl, rfl⟩
    · rw [hafter]
      exact hg

theorem calls {calls : List Call} (h : f.Keeps pushes) (hvalid : ∀ p ∈ sent calls, p.Valid) :
    (calls.foldl (fun f c => c.after f) f).Keeps (pushes ++ sent calls) := by
  induction calls generalizing f pushes with
  | nil => simpa [sent] using h
  | cons c rest ih =>
    have hsent : sent (c :: rest) = c.pushes ++ sent rest := rfl
    rw [hsent, List.forall_mem_append] at hvalid
    rw [List.foldl_cons, hsent, ← List.append_assoc]
    exact ih (h.call hvalid.1).2 hvalid.2

end Keeps

theorem feedAfter_keeps {calls : List Call} (hvalid : ∀ p ∈ sent calls, p.Valid) :
    (feedAfter calls).Keeps (sent calls) := Keeps.empty.calls hvalid

/-- Without ties the newest push is the one under the highest number, wherever it came. -/
theorem Newest.eq_of_perm {more : List Push} (hperm : more.Perm pushes)
    (hdistinct : pushes.Pairwise fun p q => p.account.key = q.account → p.sequence ≠ q.sequence)
    (hp : Newest more account p) (hq : Newest pushes account q) : p = q := by
  have hsame : p.sequence = q.sequence :=
    le_antisymm (hq.highest p (hperm.mem_iff.1 hp.mem) hp.own)
      (hp.highest q (hperm.mem_iff.2 hq.mem) hq.own)
  have : Std.Symm fun p q : Push => p.account.key = q.account → p.sequence ≠ q.sequence :=
    ⟨fun _ _ h hown => (h hown.symm).symm⟩
  by_contra hne
  exact hdistinct.forall (hperm.mem_iff.1 hp.mem) hq.mem hne (hp.own.trans hq.own.symm) hsame

theorem Keeps.get?_of_perm {g : MarginFeed} {more : List Push} (hf : f.Keeps pushes)
    (hg : g.Keeps more) (hperm : more.Perm pushes)
    (hdistinct : pushes.Pairwise fun p q => p.account.key = q.account → p.sequence ≠ q.sequence)
    (account : Key) : g.snapshots.get? account = f.snapshots.get? account := by
  cases hget : f.snapshots.get? account with
  | none =>
    cases hget' : g.snapshots.get? account with
    | none => rfl
    | some s =>
      obtain ⟨p, hp, -⟩ := hg.newest hget'
      exact absurd hp.own (hf.unknown hget p (hperm.mem_iff.1 hp.mem))
  | some s =>
    obtain ⟨q, hq, hs⟩ := hf.newest hget
    cases hget' : g.snapshots.get? account with
    | none => exact absurd hq.own (hg.unknown hget' q (hperm.mem_iff.2 hq.mem))
    | some t =>
      obtain ⟨p, hp, ht⟩ := hg.newest hget'
      cases hp.eq_of_perm hperm hdistinct hq
      rw [ht.unique hs]

/-- After any calls with valid reports the feed holds, for each account that was pushed for, the
newest push. No call fails, and each answers whether, or how many of, its pushes were current. Other
calls that made the same pushes in any order leave the same snapshots, if no account was pushed for
twice under one number. -/
theorem newest_stands {calls : List Call} (hvalid : ∀ p ∈ sent calls, p.Valid) :
    (∀ account s, (feedAfter calls).snapshots.get? account = some s ↔
      ∃ p, Newest (sent calls) account p ∧ p.Carries s) ∧
    (∀ p ∈ sent calls, ((feedAfter calls).snapshots.get? p.account).isSome) ∧
    (∀ before c rest, calls = before ++ c :: rest → c.Answered (feedAfter before) (sent before)) ∧
    ∀ other, (sent other).Perm (sent calls) →
      ((sent calls).Pairwise fun p q => p.account.key = q.account → p.sequence ≠ q.sequence) →
      ∀ account, (feedAfter other).snapshots.get? account =
        (feedAfter calls).snapshots.get? account := by
  have hkeeps := feedAfter_keeps hvalid
  refine ⟨fun account s => hkeeps.stored_iff, ?_, ?_, ?_⟩
  · intro p hp
    rw [Option.isSome_iff_ne_none]
    intro hnone
    exact hkeeps.unknown hnone p hp rfl
  · rintro before c rest rfl
    have hsent : sent (before ++ c :: rest) = sent before ++ (c.pushes ++ sent rest) := by
      simp [sent]
    rw [hsent, List.forall_mem_append, List.forall_mem_append] at hvalid
    exact ((feedAfter_keeps hvalid.1).call hvalid.2.1).1
  · intro other hperm hdistinct
    have hother : ∀ p ∈ sent other, p.Valid := fun p hp => hvalid p (hperm.mem_iff.1 hp)
    exact hkeeps.get?_of_perm (feedAfter_keeps hother) hperm hdistinct

def holding (collateral : Int) : MarginReport := { collateral := .whole collateral }

theorem holding_says {collateral : Int} (h : 0 ≤ collateral) (sequence : Int) :
    (holding collateral).Says { collateral, sequence } where
  maintenanceMargin := ⟨rfl, le_rfl⟩
  markToMarket := rfl
  collateral := ⟨rfl, h⟩
  valueAtRisk := ⟨rfl, le_rfl⟩

def late : List Call :=
  [.single ⟨.text "ana", holding 7, -5⟩, .single ⟨.text "ben", holding 4, 1⟩,
    .bulk [(.text "ana", holding 2), (.text "carol", holding 0)] (-2),
    .single ⟨.text "ana", holding 9, -3⟩]

def lateBackwards : List Call := (sent late).reverse.map .single

theorem late_stands_backwards :
    (∀ p ∈ sent late, p.Valid) ∧ (sent lateBackwards).Perm (sent late) ∧
      (feedAfter late).snapshots.get? (.text "ana") = some { collateral := 2, sequence := -2 } ∧
      (feedAfter lateBackwards).snapshots.get? (.text "ana") =
        some { collateral := 2, sequence := -2 } := by
  have hvalid : ∀ p ∈ sent late, p.Valid := by
    have hholding (account : Name) {collateral : Int} (h : 0 ≤ collateral) (sequence : Int) :
        Push.Valid ⟨account, holding collateral, sequence⟩ := ⟨_, holding_says h sequence, rfl⟩
    simp [sent, late, Call.pushes, batch, hholding]
  have hbackwards : (sent lateBackwards).Perm (sent late) := List.reverse_perm (sent late)
  have hdistinct : (sent late).Pairwise
      fun p q => p.account.key = q.account → p.sequence ≠ q.sequence := by
    simp [sent, late, Call.pushes, batch]
  have hnewest : Newest (sent late) (.text "ana") ⟨.text "ana", holding 2, -2⟩ := by
    refine ⟨rfl, by simp [sent, late, Call.pushes, batch], ?_⟩
    exact ⟨(sent late).take 2, (sent late).drop 3, rfl, by simp [sent, late, Call.pushes, batch]⟩
  obtain ⟨hstored, -, -, hanyOrder⟩ := newest_stands hvalid
  have hana : (feedAfter late).snapshots.get? (.text "ana") =
      some { collateral := 2, sequence := -2 } :=
    (hstored _ _).2 ⟨_, hnewest, holding_says (by decide) _, rfl⟩
  refine ⟨hvalid, hbackwards, hana, ?_⟩
  rw [hanyOrder lateBackwards hbackwards hdistinct, hana]

end MarginFeed

end MoneyMarket
