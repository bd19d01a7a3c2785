import MoneyMarket.Proofs.Pool.Atomicity
import MoneyMarket.Proofs.Scenario.Accounts

/-!
# Replays without failures

A refused operation leaves the pool as it was, and it is noted. Without the operations that were
refused a scenario comes to the same: the pool is the same after each of the others, and so are the
reports on the accounts that these name.
-/

namespace MoneyMarket.Scenario

/-! ## Leaving out operations -/

def kept (failed : List Nat) : Nat → List Json → List Json
  | _, [] => []
  | index, entry :: rest =>
    if index ∈ failed then kept failed (index + 1) rest
    else entry :: kept failed (index + 1) rest

def keptOperations (failed : List Nat) : Json → Json
  | .list entries => .list (kept failed 0 entries)
  | v => v

def Fields.without (failed : List Nat) (fs : Fields) : Fields :=
  fs.map fun f => if f.1 = "operations" then (f.1, keptOperations failed f.2) else f

/-- The scenario without the operations at the `failed` places. -/
def without (failed : List Nat) : Json → Json
  | .object fs => .object (Fields.without failed fs)
  | v => v

variable {failed failed' : List Nat} {index : Nat} {entries : List Json}

theorem kept_congr (h : ∀ i, index ≤ i → (i ∈ failed ↔ i ∈ failed')) :
    kept failed index entries = kept failed' index entries := by
  induction entries generalizing index with
  | nil => rfl
  | cons entry rest ih =>
    have hrest := ih fun i hi => h i (Nat.le_of_succ_le hi)
    rw [kept, kept, hrest, if_congr (h index (Nat.le_refl _)) rfl rfl]

/-! ## Steps -/

theorem attempt_error {p p' : Pool} {fs : Fields} {t : Trouble}
    (h : attempt p fs = (p', .error t)) : p' = p := by
  unfold attempt at h
  split at h
  · cases h
    rfl
  · rename_i op _
    cases hanswer : p.perform op with
    | mk q answer =>
      simp only [hanswer, Prod.mk.injEq] at h
      obtain ⟨rfl, h⟩ := h
      cases answer with
      | ok a => cases h
      | error f =>
        have hrefused : (p.perform op).2 = .error f := by rw [hanswer]
        rw [← Pool.perform_error_eq hrefused, hanswer]

variable {r done : Replay} {noted : List Name}

theorem step_cases {entry : Json} {r' : Replay} (h : step false r index entry = .ok r') :
    ∃ fs users, entry = .object fs ∧ noteUsers r.users fs = .ok users ∧
      ((∃ pool, attempt r.pool fs = (pool, .ok ()) ∧ r' = { r with pool, users }) ∨
        ∃ op code, r' = { r with users, failures := r.failures ++ [⟨index, op, code⟩] }) := by
  unfold step at h
  split at h
  · rename_i fs
    obtain ⟨users, husers, h⟩ := bind_ok_iff.1 h
    refine ⟨fs, users, rfl, husers, ?_⟩
    split at h
    · rename_i pool _ hattempt
      cases h
      exact .inl ⟨pool, hattempt, rfl⟩
    · rename_i pool cause hattempt
      rw [if_neg Bool.false_ne_true] at h
      obtain ⟨op, _, h⟩ := bind_ok_iff.1 h
      cases h
      rw [attempt_error hattempt]
      exact .inr ⟨op, cause.code, rfl⟩
    · cases h
  · cases h

theorem step_done {stopOnError : Bool} {p pool : Pool} {users users' : List Name}
    {failures : List Failure} {fs : Fields} (hnote : noteUsers users fs = .ok users')
    (hattempt : attempt p fs = (pool, .ok ())) :
    step stopOnError ⟨p, users, failures⟩ index (.object fs) = .ok ⟨pool, users', failures⟩ := by
  simp only [step, hnote, ok_bind, hattempt]
  rfl

theorem steps_without (h : steps false r index entries = .ok done) (hnoted : Among r.users noted)
    (place : Nat) : ∃ failures users, done.failures = r.failures ++ failures ∧
      (∀ f ∈ failures, index ≤ f.index) ∧ Among done.users users ∧
      steps false ⟨r.pool, noted, []⟩ place (kept (failures.map Failure.index) index entries) =
        .ok ⟨done.pool, users, []⟩ := by
  -- an entry that is left out moves the places of those behind it, hence any `place`
  induction entries generalizing r index noted place with
  | nil =>
    cases h
    exact ⟨[], noted, (List.append_nil _).symm, nofun, hnoted, rfl⟩
  | cons entry rest ih =>
    obtain ⟨r', hstep, hrest⟩ := bind_ok_iff.1 h
    obtain ⟨fs, users, rfl, husers, hstep⟩ := step_cases hstep
    obtain ⟨hnoted', noted', hnote, hamong⟩ := noteUsers_among husers hnoted
    rcases hstep with ⟨pool, hattempt, rfl⟩ | ⟨op, code, rfl⟩
    · -- it was done, and is done again
      obtain ⟨failures, last, hfailures, hlater, hlast, hagain⟩ := ih hrest hamong (place + 1)
      refine ⟨failures, last, hfailures, fun f hf => Nat.le_of_succ_le (hlater f hf), hlast, ?_⟩
      have hkept : index ∉ failures.map Failure.index := by
        intro hi
        obtain ⟨f, hf, rfl⟩ := List.mem_map.1 hi
        exact Nat.not_succ_le_self _ (hlater f hf)
      rw [kept, if_neg hkept, steps, step_done hnote hattempt]
      exact hagain
    · -- it was refused, and is left out
      obtain ⟨failures, last, hfailures, hlater, hlast, hagain⟩ := ih hrest hnoted' place
      refine ⟨⟨index, op, code⟩ :: failures, last, ?_, ?_, hlast, ?_⟩
      · rw [hfailures, List.append_assoc]
        rfl
      · rw [List.forall_mem_cons]
        exact ⟨Nat.le_refl _, fun f hf => Nat.le_of_succ_le (hlater f hf)⟩
      · have hleft : kept (index :: failures.map Failure.index) (index + 1) rest =
            kept (failures.map Failure.index) (index + 1) rest := by
          apply kept_congr
          intro i hi
          rw [List.mem_cons, or_iff_right]
          rintro rfl
          exact Nat.not_succ_le_self _ hi
        rw [List.map_cons, kept, if_pos List.mem_cons_self, hleft]
        exact hagain

/-! ## Outcomes -/

/-- The outcomes tell the same, but for the failures. Of the accounts the second one may have fewer,
and it may spell them otherwise. -/
structure SameBut (out out' : Output) : Prop where
  timestamp : out'.timestamp = out.timestamp
  events : out'.events = out.events
  settlement : out'.settlement = out.settlement
  accounts : ∀ y ∈ out'.accounts, ∃ x ∈ out.accounts, x.1.key = y.1.key
  reports : ∀ x ∈ out.accounts, ∀ y ∈ out'.accounts, x.1.key = y.1.key → y.2 = x.2

theorem ofFault_ok_iff {α : Type} {r : Except Fault α} {a : α} :
    Reading.ofFault r = .ok a ↔ r = .ok a := by
  cases r <;> simp [Reading.ofFault, Except.mapError]

theorem accounts_ok_iff {sorted : List Name} :
    r.accounts = .ok sorted ↔ Name.sorted? r.users = some sorted := by
  unfold Replay.accounts
  split <;> simp_all

def reportOn (p : Pool) (user : Name) : Reading (Name × SolvencyReport) := do
  return (user, ← .ofFault (p.solvency user))

theorem reportOn_ok_iff {p : Pool} {user : Name} {x : Name × SolvencyReport} :
    reportOn p user = .ok x ↔ x.1 = user ∧ p.solvency user = .ok x.2 := by
  simp only [reportOn, bind_ok_iff, pure_ok_iff, ofFault_ok_iff]
  constructor
  · rintro ⟨_, hreport, rfl⟩
    exact ⟨rfl, hreport⟩
  · rintro ⟨rfl, hreport⟩
    exact ⟨_, hreport, rfl⟩

theorem output_ok_iff {out : Output} : r.output = .ok out ↔ ∃ sorted accounts,
    Name.sorted? r.users = some sorted ∧ sorted.mapM (reportOn r.pool) = .ok accounts ∧
    out = {
      timestamp := r.pool.clock
      accounts
      events := r.pool.events
      settlement := r.pool.settlement.instructions
      failures := r.failures } := by
  simp only [Replay.output, bind_ok_iff, pure_ok_iff, accounts_ok_iff]
  constructor
  · rintro ⟨sorted, hsorted, accounts, haccounts, rfl⟩
    exact ⟨sorted, accounts, hsorted, haccounts, rfl⟩
  · rintro ⟨sorted, accounts, hsorted, haccounts, rfl⟩
    exact ⟨sorted, hsorted, accounts, haccounts, rfl⟩

theorem output_of_among {out : Output} (h : done.output = .ok out)
    (hnoted : Among done.users noted) :
    ∃ out', Replay.output ⟨done.pool, noted, []⟩ = .ok out' ∧ out'.failures = [] ∧
      SameBut out out' := by
  obtain ⟨sorted, accounts, hsorted, haccounts, rfl⟩ := output_ok_iff.1 h
  obtain ⟨sorted', hsorted'⟩ := hnoted.sorted? hsorted
  obtain ⟨hreported, hreports⟩ := mem_of_mapM_ok haccounts
  have hsome : ∀ y ∈ sorted', ∃ x ∈ accounts, x.1.key = y.key ∧ done.pool.solvency y = .ok x.2 := by
    intro y hy
    obtain ⟨user, huser, hkey⟩ := hnoted.known y ((Name.perm_of_sorted? hsorted').mem_iff.1 hy)
    obtain ⟨x, hx, hreport⟩ := hreported user ((Name.perm_of_sorted? hsorted).mem_iff.2 huser)
    obtain ⟨rfl, hreport⟩ := reportOn_ok_iff.1 hreport
    exact ⟨x, hx, hkey, hkey ▸ hreport⟩
  obtain ⟨accounts', haccounts'⟩ : ∃ accounts', sorted'.mapM (reportOn done.pool) = .ok accounts' := by
    apply mapM_ok
    intro y hy
    obtain ⟨x, _, _, hreport⟩ := hsome y hy
    exact ⟨(y, x.2), reportOn_ok_iff.2 ⟨rfl, hreport⟩⟩
  have hreports' := (mem_of_mapM_ok haccounts').2
  refine ⟨_, output_ok_iff.2 ⟨sorted', accounts', hsorted', haccounts', rfl⟩, rfl, rfl, rfl, rfl, ?_, ?_⟩
  · intro y hy
    obtain ⟨user, huser, hreport⟩ := hreports' y hy
    obtain ⟨x, hx, hkey, _⟩ := hsome user huser
    exact ⟨x, hx, (reportOn_ok_iff.1 hreport).1 ▸ hkey⟩
  · intro x hx y hy hkey
    obtain ⟨user, _, hreport⟩ := hreports x hx
    obtain ⟨user', _, hreport'⟩ := hreports' y hy
    obtain ⟨rfl, hreport⟩ := reportOn_ok_iff.1 hreport
    obtain ⟨rfl, hreport'⟩ := reportOn_ok_iff.1 hreport'
    rw [← hkey, hreport] at hreport'
    exact (Except.ok.inj hreport').symm

/-! ## Scenarios -/

theorem find?_map_fields {g : String × Json → String × Json} (hname : ∀ f, (g f).1 = f.1)
    (field : String) (fs : Fields) :
    Entries.find? field (fs.map g) = (Entries.find? field fs).map fun v => (g (field, v)).2 := by
  induction fs with
  | nil => rfl
  | cons f rest ih =>
    rw [List.map_cons, Entries.find?, Entries.find?, hname]
    split
    · rename_i hf
      rw [← hf]
      rfl
    · exact ih

theorem find?_without (failed : List Nat) (fs : Fields) (field : String) :
    Entries.find? field (fs.without failed) = (Entries.find? field fs).map fun v =>
      if field = "operations" then keptOperations failed v else v := by
  unfold Fields.without
  rw [find?_map_fields fun f => by split <;> rfl]
  congr 1
  funext v
  split <;> rfl

theorem getOr_without {failed : List Nat} {fs : Fields} {field : String} {default : Json}
    (h : field ≠ "operations") : (fs.without failed).getOr field default = fs.getOr field default := by
  unfold Fields.getOr
  rw [find?_without]
  simp [h]

theorem getOr_operations {failed : List Nat} {fs : Fields} :
    (fs.without failed).getOr "operations" (.list []) =
      keptOperations failed (fs.getOr "operations" (.list [])) := by
  unfold Fields.getOr
  rw [find?_without]
  cases Entries.find? "operations" fs <;> rfl

theorem items_keptOperations {v : Json} (hitems : items v = .ok entries)
    (h : steps false r 0 entries = .ok done) :
    items (keptOperations failed v) = .ok (kept failed 0 entries) := by
  have none_of_texts (htexts : ∀ e ∈ entries, ∃ s, e = .text s) : kept failed 0 entries = entries := by
    cases entries with
    | nil => rfl
    | cons entry rest =>
      obtain ⟨_, hstep, _⟩ := bind_ok_iff.1 h
      obtain ⟨_, _, hobject, _⟩ := step_cases hstep
      obtain ⟨_, htext⟩ := htexts entry List.mem_cons_self
      rw [htext] at hobject
      cases hobject
  cases v with
  | list vs =>
    cases hitems
    rfl
  | object fs =>
    rw [none_of_texts]
    · exact hitems
    · cases hitems
      intro e he
      obtain ⟨f, _, rfl⟩ := List.mem_map.1 he
      exact ⟨f.1, rfl⟩
  | text s =>
    rw [none_of_texts]
    · exact hitems
    · cases hitems
      intro e he
      obtain ⟨n, _, rfl⟩ := List.mem_map.1 he
      exact ⟨_, rfl⟩
  | null | bool | whole | real => cases hitems

/-- **Replays.** Where a scenario is replayed to its end, its operations without those that were
refused are replayed to the same end: with no failure, the same time, events and instructions, and
the same report on every account that is reported on again. -/
theorem replay_without_failures {params : PoolParams} {scenario : Json} {out : Output}
    (h : replay params scenario false = .ok out) :
    ∃ out', replay params (without (out.failures.map Failure.index) scenario) false = .ok out' ∧
      out'.failures = [] ∧ SameBut out out' := by
  obtain ⟨fs, hfs, h⟩ := bind_ok_iff.1 h
  obtain ⟨priced, hpriced, h⟩ := bind_ok_iff.1 h
  obtain ⟨listed, hlisted, h⟩ := bind_ok_iff.1 h
  obtain ⟨entries, hentries, h⟩ := bind_ok_iff.1 h
  obtain ⟨done, hdone, houtput⟩ := bind_ok_iff.1 h
  obtain ⟨failures, noted, hfailures, -, hnoted, hagain⟩ := steps_without hdone (among_nil _) 0
  have hout : out.failures = failures := by
    obtain ⟨_, _, _, _, rfl⟩ := output_ok_iff.1 houtput
    exact hfailures
  obtain ⟨out', houtput', hnone, hsame⟩ := output_of_among houtput hnoted
  refine ⟨out', ?_, hnone, hsame⟩
  obtain rfl : scenario = .object fs := by
    cases scenario <;> cases hfs
    rfl
  rw [hout]
  have hpriced' : setPrices { params } ((fs.without (failures.map Failure.index)).getOr "prices"
      (.object [])) = .ok priced := by rwa [getOr_without (by decide)]
  have hlisted' : listReserves priced ((fs.without (failures.map Failure.index)).getOr "reserves"
      (.list [])) = .ok listed := by rwa [getOr_without (by decide)]
  have hkept : items ((fs.without (failures.map Failure.index)).getOr "operations" (.list [])) =
      .ok (kept (failures.map Failure.index) 0 entries) := by
    rw [getOr_operations]
    exact items_keptOperations hentries hdone
  show (do
    let pool ← setPrices { params } _
    let pool ← listReserves pool _
    let done ← steps false { pool } 0 (← items _)
    done.output) = _
  rw [hpriced', ok_bind, hlisted', ok_bind, hkept, ok_bind]
  exact bind_ok_iff.2 ⟨_, hagain, houtput'⟩

def overdrawn : Json := .object [
  ("prices", .object [("WETH", .whole 2000), ("DAI", .text "1.0")]),
  ("reserves", .list [.text "WETH", .text "DAI"]),
  ("operations", .list [
    .object [("op", .text "deposit"), ("asset", .text "WETH"), ("amount", .whole 10),
      ("user", .text "ana")],
    .object [("op", .text "withdraw"), ("asset", .text "WETH"), ("amount", .text "10.5"),
      ("user", .text "ana")],
    .object [("op", .text "advance_time"), ("seconds", .whole 3600)],
    .object [("op", .text "borrow"), ("asset", .text "USDC"), ("amount", .whole 1),
      ("user", .text "ana")]])]

/-- It comes to the same without the withdrawal and without the loan of what is not listed. -/
theorem overdrawn_without_failures :
    ∃ out, replay {} overdrawn false = .ok out ∧ out.failures.map Failure.index = [1, 3] ∧
      out.accounts.length = 1 ∧ ∃ out', replay {} (without [1, 3] overdrawn) false = .ok out' ∧
        out'.failures = [] ∧ SameBut out out' := by
  have hreplay : ∃ out, replay {} overdrawn false = .ok out ∧
      out.failures.map Failure.index = [1, 3] ∧ out.accounts.length = 1 := by decide +kernel
  obtain ⟨out, hout, hfailures, haccounts⟩ := hreplay
  have hwithout := replay_without_failures hout
  rw [hfailures] at hwithout
  exact ⟨out, hout, hfailures, haccounts, hwithout⟩

end MoneyMarket.Scenario
