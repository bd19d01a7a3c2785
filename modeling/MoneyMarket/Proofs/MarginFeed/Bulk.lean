import MoneyMarket.Proofs.MarginFeed

/-!
# Bulk pushes that fail

A bulk push takes its reports one after the other and stops at the first that is not sound. Those
before it stay. So the feed is as it was exactly if they all came too late, or what they said last of
each account was what the feed held of it already.
-/

namespace MoneyMarket

/-! ## Sound reports -/

namespace MarginReport

variable {r : MarginReport} {account : Name} {sequence : Int}

def Sound (r : MarginReport) : Prop := ∃ s, r.Says s

theorem sound_iff (account : Name) (sequence : Int) :
    r.Sound ↔ (r.checked account sequence).isOk = true := by
  constructor
  · rintro ⟨s, hs⟩
    have hs' : r.Says { s with sequence } := { hs with }
    rw [checked_ok_iff.2 ⟨hs', rfl⟩]
    rfl
  · intro h
    cases hchecked : r.checked account sequence with
    | ok s => exact ⟨s, (checked_ok_iff.1 hchecked).1⟩
    | error e =>
      rw [hchecked] at h
      cases h

instance (r : MarginReport) : Decidable r.Sound := decidable_of_iff' _ (r.sound_iff .null 0)

def fields (r : MarginReport) : List (String × Reported) :=
  [("maintenance_margin", r.maintenanceMargin), ("mark_to_market", r.markToMarket),
    ("collateral", r.collateral), ("value_at_risk", r.valueAtRisk)]

/-- What is said against a report: that a field of it is no whole number, or is negative. -/
inductive Blames (r : MarginReport) (account : Name) : Refusal → Prop
  | notWhole {field : String} {v : Reported} (h : (field, v) ∈ r.fields) (hv : v.whole? = none) :
    Blames r account (.marginFieldNotWhole field account)
  | negative {field : String} {n : Int} (h : (field, .whole n) ∈ r.fields)
    (hfield : field ≠ "mark_to_market") (hn : n < 0) :
    Blames r account (.marginFieldNegative field account)

theorem wholeField_error_iff {field : String} {v : Reported} {f : Fault} :
    wholeField account field v = .error f ↔
      v.whole? = none ∧ f = .refused (.marginFieldNotWhole field account) := by
  unfold wholeField
  cases v.whole? <;> simp [eq_comm]

theorem requireNonNegative_error_iff {field : String} {n : Int} {f : Fault} :
    requireNonNegative account field n = .error f ↔
      n < 0 ∧ f = .refused (.marginFieldNegative field account) := by
  unfold requireNonNegative
  split <;> simp [*, eq_comm]

theorem checked_error {f : Fault} (h : r.checked account sequence = .error f) :
    ∃ cause, f = .refused cause ∧ r.Blames account cause := by
  simp only [checked, bind_error_iff, wholeField_error_iff, wholeField_ok_iff,
    requireNonNegative_error_iff] at h
  rcases h with ⟨hv, rfl⟩ | ⟨m, hm, ⟨hv, rfl⟩ | ⟨t, ht, ⟨hv, rfl⟩ | ⟨c, hc, ⟨hv, rfl⟩ |
    ⟨v, hv, ⟨hn, rfl⟩ | ⟨_, _, ⟨hn, rfl⟩ | ⟨_, _, ⟨hn, rfl⟩ | ⟨_, _, h⟩⟩⟩⟩⟩⟩⟩
  · exact ⟨_, rfl, .notWhole (by simp [fields]) hv⟩
  · exact ⟨_, rfl, .notWhole (by simp [fields]) hv⟩
  · exact ⟨_, rfl, .notWhole (by simp [fields]) hv⟩
  · exact ⟨_, rfl, .notWhole (by simp [fields]) hv⟩
  · exact ⟨_, rfl, .negative (by simp [fields, hm]) (by decide) hn⟩
  · exact ⟨_, rfl, .negative (by simp [fields, hc]) (by decide) hn⟩
  · exact ⟨_, rfl, .negative (by simp [fields, hv]) (by decide) hn⟩
  · cases h

end MarginReport

namespace MarginFeed

open MarginReport

/-! ## What a batch lays over the feed -/

def lastFor (pushes : List Push) (account : Key) : Option Push :=
  (pushes.filter (·.account.key = account)).getLast?

variable {f g : MarginFeed} {pushes : List Push} {account : Key} {sequence : Int} {p : Push}

theorem lastFor_append (pushes : List Push) (p : Push) (account : Key) :
    lastFor (pushes ++ [p]) account =
      if p.account.key = account then some p else lastFor pushes account := by
  unfold lastFor
  rw [List.filter_append]
  split
  · rename_i hown
    simp [hown]
  · rename_i hother
    simp [hother]

/-- Of the pushes under one number, `g` has the last for each account where it was not stale in `f`. -/
structure Laid (f g : MarginFeed) (sequence : Int) (pushes : List Push) : Prop where
  kept : ∀ {account}, lastFor pushes account = none ∨ f.isStale account sequence = true →
    g.snapshots.get? account = f.snapshots.get? account
  stored : ∀ {account p}, lastFor pushes account = some p → f.isStale account sequence = false →
    ∃ s, p.Carries s ∧ s.sequence = sequence ∧ g.snapshots.get? account = some s

namespace Laid

theorem nothing (f : MarginFeed) (sequence : Int) : Laid f f sequence [] where
  kept _ := rfl
  stored h := nomatch h

/-- A number that is not too low for an account stays so, as only that number is stored. -/
theorem isStale (h : Laid f g sequence pushes) (account : Key) :
    g.isStale account sequence = f.isStale account sequence := by
  by_cases hkept : lastFor pushes account = none ∨ f.isStale account sequence = true
  · unfold MarginFeed.isStale
    rw [h.kept hkept]
  · obtain ⟨hsome, hfresh⟩ := not_or.1 hkept
    rw [Bool.not_eq_true] at hfresh
    obtain ⟨p, hp⟩ := Option.ne_none_iff_exists'.1 hsome
    obtain ⟨s, -, hnumber, hstored⟩ := h.stored hp hfresh
    rw [hfresh, MarginFeed.isStale, hstored, decide_eq_false_iff_not, hnumber]
    exact Int.lt_irrefl sequence

theorem push (h : Laid f g sequence pushes) (account : Name) {report : MarginReport}
    (hsound : report.Sound) :
    ∃ g' stored, g.push account report sequence = .ok (g', stored) ∧
      Laid f g' sequence (pushes ++ [⟨account, report, sequence⟩]) := by
  obtain ⟨s, hs⟩ := hsound
  have hchecked : report.checked account sequence = .ok { s with sequence } :=
    checked_ok_iff.2 ⟨{ hs with }, rfl⟩
  rw [push_checked hchecked, h.isStale]
  split
  -- too late: the account keeps what `f` has of it
  · rename_i hstale
    refine ⟨g, false, rfl, ?_, ?_⟩
    · intro a ha
      rw [lastFor_append] at ha
      split at ha
      · rename_i hown
        exact h.kept (.inr (hown ▸ hstale))
      · exact h.kept ha
    · intro a p hp hfresh
      rw [lastFor_append] at hp
      split at hp
      · rename_i hown
        exact absurd (hown ▸ hstale) (by simp [hfresh])
      · exact h.stored hp hfresh
  -- in time: the report is the last one for its account now
  · rename_i hfresh
    refine ⟨_, true, rfl, ?_, ?_⟩
    · intro a ha
      rw [lastFor_append] at ha
      have hother : account.key ≠ a := by
        rintro rfl
        simp [hfresh] at ha
      rw [if_neg hother] at ha
      rw [Table.get?_set, if_neg (Ne.symm hother)]
      exact h.kept ha
    · intro a p hp hnew
      rw [lastFor_append] at hp
      rw [Table.get?_set]
      split at hp
      · rename_i hown
        cases hp
        subst hown
        exact ⟨{ s with sequence }, ⟨{ hs with }, rfl⟩, rfl, if_pos rfl⟩
      · rename_i hother
        rw [if_neg (Ne.symm hother)]
        exact h.stored hp hnew

theorem advance {updates : List (Name × MarginReport)} (h : Laid f g sequence pushes)
    (hsound : ∀ u ∈ updates, u.2.Sound) (count : Nat) :
    ∃ g' count', Stage.advance (updates.map (pushCounted sequence)) (g, count) =
        ⟨(g', count'), none⟩ ∧ Laid f g' sequence (pushes ++ batch updates sequence) := by
  induction updates generalizing g pushes count with
  | nil => exact ⟨g, count, rfl, by simpa [batch] using h⟩
  | cons u rest ih =>
    rw [List.forall_mem_cons] at hsound
    obtain ⟨g₁, stored, hpush, hg₁⟩ := h.push u.1 hsound.1
    obtain ⟨g', count', hrest, hg'⟩ := ih hg₁ hsound.2 (if stored then count + 1 else count)
    rw [List.append_assoc, List.singleton_append] at hg'
    refine ⟨g', count', ?_, hg'⟩
    rw [← hrest, List.map_cons, Stage.advance, pushCounted, hpush]
    rfl

end Laid

theorem Laid.unchanged_iff (h : Laid f g sequence pushes) :
    (∀ account, g.snapshots.get? account = f.snapshots.get? account) ↔
      ∀ account p, lastFor pushes account = some p → f.isStale account sequence = false →
        ∃ s, p.Carries s ∧ f.snapshots.get? account = some s := by
  constructor
  · intro hsame account p hp hfresh
    obtain ⟨s, hs, -, hstored⟩ := h.stored hp hfresh
    exact ⟨s, hs, hsame account ▸ hstored⟩
  · intro hrepeats account
    by_cases hkept : lastFor pushes account = none ∨ f.isStale account sequence = true
    · exact h.kept hkept
    · obtain ⟨hsome, hfresh⟩ := not_or.1 hkept
      rw [Bool.not_eq_true] at hfresh
      obtain ⟨p, hp⟩ := Option.ne_none_iff_exists'.1 hsome
      obtain ⟨s, hs, -, hstored⟩ := h.stored hp hfresh
      obtain ⟨t, ht, hheld⟩ := hrepeats account p hp hfresh
      rw [hstored, hheld, hs.unique ht]

/-! ## Batches that fail -/

def soundStart (updates : List (Name × MarginReport)) : List (Name × MarginReport) :=
  updates.takeWhile fun u => u.2.Sound

/-- What the reports say last of each account came too late, or is what the feed holds of it. -/
def Repeats (f : MarginFeed) (updates : List (Name × MarginReport)) (sequence : Int) : Prop :=
  ∀ account p, lastFor (batch updates sequence) account = some p →
    f.isStale account sequence = false → ∃ s, p.Carries s ∧ f.snapshots.get? account = some s

theorem pushAll_sound (f : MarginFeed) {updates : List (Name × MarginReport)} (sequence : Int)
    (h : ∀ u ∈ updates, u.2.Sound) : (f.pushAll updates sequence).fault = none := by
  obtain ⟨g, count, hall, -⟩ := (Laid.nothing f sequence).advance h 0
  rw [pushAll, hall]

/-- A batch stops at its first report that is not sound, with what those before it laid over. -/
theorem pushAll_unsound (f : MarginFeed) {before : List (Name × MarginReport)}
    {u : Name × MarginReport} (after : List (Name × MarginReport)) (sequence : Int)
    (hbefore : ∀ v ∈ before, v.2.Sound) (hu : ¬ u.2.Sound) :
    ∃ cause, (f.pushAll (before ++ u :: after) sequence).fault = some (.refused cause) ∧
      u.2.Blames u.1 cause ∧
      Laid f (f.pushAll (before ++ u :: after) sequence).state.1 sequence
        (batch before sequence) := by
  obtain ⟨g, count, hall, hg⟩ := (Laid.nothing f sequence).advance hbefore 0
  cases hchecked : u.2.checked u.1 sequence with
  | ok s =>
    rw [u.2.sound_iff u.1 sequence, hchecked] at hu
    exact absurd rfl hu
  | error e =>
    obtain ⟨cause, rfl, hblames⟩ := checked_error hchecked
    have hstops : f.pushAll (before ++ u :: after) sequence =
        ⟨(g, count), some (.refused cause)⟩ := by
      rw [pushAll, List.map_append, Stage.advance_append hall, List.map_cons, Stage.advance,
        pushCounted, MarginFeed.push, hchecked]
      rfl
    rw [hstops]
    exact ⟨cause, rfl, hblames, hg⟩

theorem soundStart_cases (updates : List (Name × MarginReport)) :
    (∀ u ∈ updates, u.2.Sound) ∨ ∃ u after, updates = soundStart updates ++ u :: after ∧
      (∀ v ∈ soundStart updates, v.2.Sound) ∧ ¬ u.2.Sound := by
  induction updates with
  | nil => exact .inl (List.forall_mem_nil _)
  | cons u rest ih =>
    by_cases hu : u.2.Sound
    · have hstart : soundStart (u :: rest) = u :: soundStart rest := by simp [soundStart, hu]
      rw [hstart]
      rcases ih with hall | ⟨v, after, hsplit, hsound, hv⟩
      · exact .inl (List.forall_mem_cons.2 ⟨hu, hall⟩)
      · exact .inr ⟨v, after, by rw [List.cons_append, ← hsplit],
          List.forall_mem_cons.2 ⟨hu, hsound⟩, hv⟩
    · have hstart : soundStart (u :: rest) = [] := by simp [soundStart, hu]
      rw [hstart]
      exact .inr ⟨u, rest, rfl, List.forall_mem_nil _, hu⟩

/-- **Bulk pushes.** A bulk push fails exactly if one of its reports is not sound, and blames a field
of the first such. It then leaves the feed as it was exactly if what the reports before that one say
last of each account came too late or is held already. -/
theorem failedBulk_unchanged_iff (f : MarginFeed) (updates : List (Name × MarginReport))
    (sequence : Int) :
    ((f.pushAll updates sequence).fault = none ↔ ∀ u ∈ updates, u.2.Sound) ∧
    ∀ fault, (f.pushAll updates sequence).fault = some fault →
      (∃ u after cause, updates = soundStart updates ++ u :: after ∧ ¬ u.2.Sound ∧
        fault = .refused cause ∧ u.2.Blames u.1 cause) ∧
      ((∀ account, (f.pushAll updates sequence).state.1.snapshots.get? account =
          f.snapshots.get? account) ↔ f.Repeats (soundStart updates) sequence) := by
  rcases soundStart_cases updates with hall | ⟨u, after, hsplit, hstart, hu⟩
  · have hnone := pushAll_sound f sequence hall
    refine ⟨iff_of_true hnone hall, ?_⟩
    intro fault hfault
    rw [hnone] at hfault
    cases hfault
  · obtain ⟨cause, hfault, hblames, hlaid⟩ := pushAll_unsound f after sequence hstart hu
    rw [← hsplit] at hfault hlaid
    rw [hfault]
    constructor
    · refine iff_of_false nofun fun hall => hu (hall u ?_)
      rw [hsplit]
      simp
    · intro fault hsome
      cases hsome
      exact ⟨⟨u, after, cause, hsplit, hu, rfl, hblames⟩, hlaid.unchanged_iff⟩

def known : MarginFeed :=
  feedAfter [.single ⟨.text "ana", holding 7, 5⟩, .single ⟨.text "carol", holding 2, 3⟩]

/-- For ana too late, for carol what is known in the end, and then no number. -/
def broken : List (Name × MarginReport) :=
  [(.text "ana", holding 9), (.text "carol", holding 4), (.text "carol", holding 2),
    (.text "ben", { collateral := .flag true }), (.text "dan", holding 1)]

theorem broken_unchanged :
    (known.pushAll broken 3).fault.isSome = true ∧ (known.pushAll broken 3).state.2 = 2 ∧
      ∀ account, (known.pushAll broken 3).state.1.snapshots.get? account =
        known.snapshots.get? account := by
  have hfails : (known.pushAll broken 3).fault.isSome = true := by decide +kernel
  have hstart : soundStart broken = broken.take 3 := rfl
  obtain ⟨fault, hfault⟩ := Option.isSome_iff_exists.1 hfails
  refine ⟨hfails, by decide +kernel, ?_⟩
  rw [((failedBulk_unchanged_iff known broken 3).2 fault hfault).2, hstart]
  intro account p hp hfresh
  by_cases hana : account = .text "ana"
  · subst hana
    exact absurd hfresh (by decide +kernel)
  by_cases hcarol : account = .text "carol"
  · subst hcarol
    cases hp
    have hlast : (holding 2).Says { collateral := 2, sequence := 3 } := holding_says (by decide) 3
    exact ⟨_, ⟨hlast, rfl⟩, by decide +kernel⟩
  · simp [lastFor, batch, broken, Ne.symm hana, Ne.symm hcarol] at hp

/-- A batch of a sound report and one that is not leaves the first behind. -/
theorem halfPushed_changed :
    let pushed := MarginFeed.pushAll {} [(.text "ana", holding 5), (.text "ben", holding (-1))] 1
    pushed.fault.isSome = true ∧
      pushed.state.1.snapshots.get? (.text "ana") = some { collateral := 5, sequence := 1 } ∧
      ({} : MarginFeed).snapshots.get? (.text "ana") = none := by
  decide +kernel

end MarginFeed

end MoneyMarket
