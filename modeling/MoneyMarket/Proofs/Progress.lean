import MoneyMarket.Progress

/-!
# Results of work

Work that gave a result did every step of it. Work in stages keeps what each of its stages keeps, and
a run keeps what each of its steps keeps.
-/

namespace MoneyMarket

/-! ## Steps -/

theorem bind_ok_iff {ε α β : Type} {x : Except ε α} {f : α → Except ε β} {b : β} :
    (x >>= f) = .ok b ↔ ∃ a, x = .ok a ∧ f a = .ok b := by
  cases x with
  | ok a => exact ⟨fun h => ⟨a, rfl, h⟩, fun ⟨_, ha, h⟩ => by cases ha; exact h⟩
  | error e => exact ⟨fun h => (nomatch h), fun ⟨_, ha, _⟩ => (nomatch ha)⟩

theorem bind_error_iff {ε α β : Type} {x : Except ε α} {f : α → Except ε β} {e : ε} :
    (x >>= f) = .error e ↔ x = .error e ∨ ∃ a, x = .ok a ∧ f a = .error e := by
  cases x with
  | ok a =>
    constructor
    · exact fun h => .inr ⟨a, rfl, h⟩
    · rintro (h | ⟨_, ha, h⟩)
      · cases h
      · cases ha
        exact h
  | error d =>
    constructor
    · exact fun h => .inl (by cases h; rfl)
    · rintro (h | ⟨_, ha, _⟩)
      · cases h
        rfl
      · cases ha

theorem ok_bind {ε α β : Type} (a : α) (f : α → Except ε β) : (.ok a >>= f) = f a := rfl

theorem pure_ok_iff {ε α : Type} {a b : α} : (pure a : Except ε α) = .ok b ↔ a = b :=
  ⟨fun h => by cases h; rfl, fun h => by rw [h]; rfl⟩

theorem toOption_eq_some_iff {ε α : Type} {x : Except ε α} {a : α} :
    x.toOption = some a ↔ x = .ok a := by
  cases x <;> simp [Except.toOption]

theorem map_ok_iff {ε α β : Type} {x : Except ε α} {f : α → β} {b : β} :
    x.map f = .ok b ↔ ∃ a, x = .ok a ∧ f a = b := by
  cases x with
  | ok a => simp [Except.map]
  | error e => simp [Except.map]

theorem map_bind {ε α β γ : Type} (x : Except ε α) (k : α → Except ε β) (f : β → γ) :
    (x >>= k).map f = x >>= fun a => (k a).map f := by
  cases x <;> rfl

theorem throw_ne_ok {ε α : Type} {e : ε} {b : α} : ¬ (throw e : Except ε α) = .ok b := nofun

theorem guard_ok_iff {ε α : Type} {c : Prop} [Decidable c] {e : ε} {rest : Except ε α} {b : α} :
    (if c then (throw e : Except ε PUnit) >>= fun _ => rest else rest) = .ok b ↔
      ¬ c ∧ rest = .ok b := by
  split
  · rename_i hc
    exact ⟨nofun, fun h => absurd hc h.1⟩
  · rename_i hc
    exact ⟨fun h => ⟨hc, h⟩, And.right⟩

theorem check_ok_iff {ε : Type} {c : Prop} [Decidable c] {e : ε} {u : PUnit} :
    (if c then throw e else pure () : Except ε PUnit) = .ok u ↔ ¬ c := by
  split
  · rename_i hc
    exact ⟨nofun, fun h => absurd hc h⟩
  · rename_i hc
    exact ⟨fun _ => hc, fun _ => rfl⟩

theorem mem_of_mapM_ok {ε α β : Type} {f : α → Except ε β} {xs : List α} {ys : List β}
    (h : xs.mapM f = .ok ys) :
    (∀ x ∈ xs, ∃ y ∈ ys, f x = .ok y) ∧ ∀ y ∈ ys, ∃ x ∈ xs, f x = .ok y := by
  induction xs generalizing ys with
  | nil =>
    rw [List.mapM_nil, pure_ok_iff] at h
    subst h
    exact ⟨nofun, nofun⟩
  | cons x rest ih =>
    simp only [List.mapM_cons, bind_ok_iff, pure_ok_iff] at h
    obtain ⟨y, hy, more, hmore, rfl⟩ := h
    obtain ⟨hgiven, hmade⟩ := ih hmore
    constructor
    · rw [List.forall_mem_cons]
      refine ⟨⟨y, List.mem_cons_self, hy⟩, fun z hz => ?_⟩
      obtain ⟨w, hw, hzw⟩ := hgiven z hz
      exact ⟨w, List.mem_cons_of_mem _ hw, hzw⟩
    · rw [List.forall_mem_cons]
      refine ⟨⟨x, List.mem_cons_self, hy⟩, fun w hw => ?_⟩
      obtain ⟨z, hz, hzw⟩ := hmade w hw
      exact ⟨z, List.mem_cons_of_mem _ hz, hzw⟩

theorem mapM_ok {ε α β : Type} {f : α → Except ε β} {xs : List α}
    (h : ∀ x ∈ xs, ∃ y, f x = .ok y) : ∃ ys, xs.mapM f = .ok ys := by
  induction xs with
  | nil => exact ⟨[], rfl⟩
  | cons x rest ih =>
    obtain ⟨y, hy⟩ := h x List.mem_cons_self
    obtain ⟨ys, hys⟩ := ih fun z hz => h z (List.mem_cons_of_mem _ hz)
    exact ⟨y :: ys, by rw [List.mapM_cons, hy, hys]; rfl⟩

instance decidableResult {ε α : Type} {x : Except ε α} {P : α → Prop} [DecidablePred P] :
    Decidable (∃ a, x = .ok a ∧ P a) :=
  match x with
  | .ok a => decidable_of_iff (P a) ⟨fun h => ⟨a, rfl, h⟩, fun ⟨_, ha, h⟩ => by cases ha; exact h⟩
  | .error _ => .isFalse fun ⟨_, ha, _⟩ => nomatch ha

instance decidableFault {ε α : Type} {x : Except ε α} {P : ε → Prop} [DecidablePred P] :
    Decidable (∃ e, x = .error e ∧ P e) :=
  match x with
  | .ok _ => .isFalse fun ⟨_, he, _⟩ => nomatch he
  | .error e =>
    decidable_of_iff (P e) ⟨fun h => ⟨e, rfl, h⟩, fun ⟨_, he, h⟩ => by cases he; exact h⟩

/-! ## Faults -/

/-- The work gives a result with `Q`, or stops at one of `faults`. -/
def Answers {α : Type} (faults : Fault → Prop) (Q : α → Prop) : Except Fault α → Prop
  | .ok a => Q a
  | .error f => faults f

namespace Answers

variable {α β : Type} {faults : Fault → Prop} {P Q : α → Prop} {R : β → Prop} {x : Except Fault α}

theorem of_total (h : ∃ a, x = .ok a ∧ Q a) : Answers faults Q x := by
  obtain ⟨a, rfl, ha⟩ := h
  exact ha

theorem of_faults (h : ∀ f, x = .error f → faults f) : Answers faults (fun _ => True) x := by
  cases x with
  | ok a => trivial
  | error f => exact h f rfl

theorem of_result (h : ∀ a, x = .ok a → Q a) : Answers (fun _ => True) Q x := by
  cases x with
  | ok a => exact h a rfl
  | error f => trivial

theorem result {a : α} (h : Answers faults Q x) (hx : x = .ok a) : Q a := by
  subst hx
  exact h

theorem mono (h : Answers faults P x) (hle : ∀ a, P a → Q a) : Answers faults Q x := by
  cases x with
  | ok a => exact hle a h
  | error f => exact h

theorem with_ok (h : Answers faults P x) : Answers faults (fun a => x = .ok a ∧ P a) x := by
  cases x with
  | ok a => exact ⟨rfl, h⟩
  | error f => exact h

theorem andThen {next : α → Except Fault β} (h : Answers faults P x)
    (hn : ∀ a, P a → Answers faults R (next a)) : Answers faults R (x >>= next) := by
  cases x with
  | ok a => exact hn a h
  | error f => exact h

theorem map {g : α → β} (h : Answers faults (fun a => R (g a)) x) : Answers faults R (x.map g) := by
  cases x <;> exact h

theorem guard {c : Prop} [Decidable c] {f : Fault} (hf : faults f) (h : ¬ c → Answers faults Q x) :
    Answers faults Q (if c then (throw f : Except Fault PUnit) >>= fun _ => x else x) := by
  split
  · exact hf
  · exact h ‹_›

theorem require {c : Prop} [Decidable c] {f : Fault} (hf : faults f) :
    Answers faults (fun _ => ¬ c) (if c then .error f else .ok ()) := by
  split
  · exact hf
  · assumption

theorem foldlM {f : β → α → Except Fault β} {I : β → Prop} {xs : List α}
    (h : ∀ x ∈ xs, ∀ b, I b → Answers faults I (f b x)) {b : β} (hb : I b) :
    Answers faults I (xs.foldlM f b) := by
  induction xs generalizing b with
  | nil => exact hb
  | cons x rest ih =>
    rw [List.foldlM_cons]
    apply (h x List.mem_cons_self b hb).andThen
    intro c hc
    exact ih (fun y hy => h y (List.mem_cons_of_mem _ hy)) hc

end Answers

/-! ## Stages -/

namespace Stage

theorem perform_cons_ok {σ : Type} {stage : Stage σ} {rest : List (Stage σ)} {s t : σ} :
    perform (stage :: rest) s = .ok t ↔
      ∃ m, stage s = .ok m ∧ perform rest m = .ok t := bind_ok_iff

theorem perform_single_ok {σ : Type} {stage : Stage σ} {s t : σ} :
    perform [stage] s = .ok t ↔ stage s = .ok t := by
  rw [perform_cons_ok]
  constructor
  · rintro ⟨_, hdone, hrest⟩
    cases hrest
    exact hdone
  · intro hdone
    exact ⟨t, hdone, rfl⟩

theorem advance_append {σ : Type} {stages more : List (Stage σ)} {s t : σ}
    (h : advance stages s = ⟨t, none⟩) : advance (stages ++ more) s = advance more t := by
  induction stages generalizing s with
  | nil =>
    cases h
    rfl
  | cons stage rest ih =>
    simp only [List.cons_append, advance] at h ⊢
    split at h
    · exact ih h
    · cases h

/-- What every stage preserves holds wherever the stages stop. -/
theorem advance_preserves {σ : Type} {I : σ → Prop} {stages : List (Stage σ)}
    (h : ∀ stage ∈ stages, ∀ s s', stage s = .ok s' → I s → I s') {s : σ} (hs : I s) :
    I (advance stages s).state := by
  induction stages generalizing s with
  | nil => exact hs
  | cons stage rest ih =>
    unfold advance
    split
    · rename_i s' hok
      exact ih (fun t ht => h t (List.mem_cons_of_mem _ ht))
        (h stage List.mem_cons_self s s' hok hs)
    · exact hs

end Stage

/-! ## Runs -/

/-- An invariant that is lost exactly by bad steps holds all along a run exactly when no step of it is
bad. What holds of the start and of the rest of the run may be used at each step. -/
theorem always_iff_never {σ ι : Type} {next : σ → ι → σ} {bad : σ → ι → Prop}
    {never : σ → List ι → Prop} (hnil : ∀ s, never s [])
    (hcons : ∀ s x xs, never s (x :: xs) ↔ ¬ bad s x ∧ never (next s x) xs)
    {I : σ → Prop} {C : σ → List ι → Prop}
    (hstep : ∀ s x xs, C s (x :: xs) → I s → (I (next s x) ↔ ¬ bad s x) ∧ C (next s x) xs)
    {xs : List ι} {s : σ} (hc : C s xs) (hs : I s) :
    (∀ before, before <+: xs → I (before.foldl next s)) ↔ never s xs := by
  -- the states before a run are those before its first step, and the start itself
  induction xs generalizing s with
  | nil =>
    apply iff_of_true _ (hnil s)
    intro before hb
    rw [List.prefix_nil.1 hb]
    exact hs
  | cons x rest ih =>
    obtain ⟨hiff, hrest⟩ := hstep s x rest hc hs
    rw [hcons]
    constructor
    · intro h
      have hafter : I (next s x) := h [x] ⟨rest, rfl⟩
      refine ⟨hiff.1 hafter, (ih hrest hafter).1 fun before hb => ?_⟩
      exact h (x :: before) (List.cons_prefix_cons.2 ⟨rfl, hb⟩)
    · rintro ⟨hkept, hnever⟩ before hb
      cases before with
      | nil => exact hs
      | cons first before =>
        obtain ⟨rfl, htail⟩ := List.cons_prefix_cons.1 hb
        exact (ih hrest (hiff.2 hkept)).2 hnever before htail

end MoneyMarket
