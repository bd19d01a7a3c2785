import MoneyMarket.Proofs.Progress
import MoneyMarket.Scenario.Replay
import Mathlib.Data.List.Nodup
import Mathlib.Data.List.Perm.Subperm

/-!
# Accounts of a scenario

A replay notes every account once, by the name that it met first. Whether names have an order depends
on what they stand for, not on how they are spelled.
-/

namespace MoneyMarket

/-! ## Names -/

theorem Key.ofReal_cases (x : Float) :
    (∃ n, Key.ofReal x = .whole n) ∨ ∃ bits, Key.ofReal x = .fraction bits := by
  unfold Key.ofReal
  split
  · exact .inl ⟨_, rfl⟩
  · exact .inr ⟨_, rfl⟩

namespace Name

variable {a : Name}

theorem points?_isSome_iff : a.points?.isSome ↔ ∃ s, a.key = .text s := by
  cases a with
  | real x =>
    rcases Key.ofReal_cases x with ⟨n, h⟩ | ⟨bits, h⟩ <;> simp [points?, key, h]
  | _ => simp [points?, key]

theorem quantity?_isSome_iff :
    a.quantity?.isSome ↔ (∃ n, a.key = .whole n) ∨ ∃ bits, a.key = .fraction bits := by
  cases a with
  | real x =>
    rcases Key.ofReal_cases x with ⟨n, h⟩ | ⟨bits, h⟩ <;> simp [quantity?, key, h]
  | _ => simp [quantity?, key]

theorem perm_of_sorted? {names sorted : List Name} (h : sorted? names = some sorted) :
    sorted.Perm names := by
  unfold sorted? at h
  split at h
  · cases h
    exact List.mergeSort_perm _ _
  · cases h

end Name

namespace Scenario

/-! ## Noted accounts -/

structure Among (all noted : List Name) : Prop where
  nodup : (noted.map Name.key).Nodup
  known : ∀ y ∈ noted, ∃ x ∈ all, x.key = y.key

variable {all all' noted : List Name}

theorem among_nil (all : List Name) : Among all [] := ⟨List.nodup_nil, nofun⟩

theorem Among.length_le (h : Among all noted) : noted.length ≤ all.length := by
  have hsubset : noted.map Name.key ⊆ all.map Name.key := by
    intro k hk
    obtain ⟨y, hy, rfl⟩ := List.mem_map.1 hk
    obtain ⟨x, hx, hxy⟩ := h.known y hy
    exact hxy ▸ List.mem_map_of_mem hx
  simpa using (List.Nodup.subperm h.nodup hsubset).length_le

theorem Among.sorted? (h : Among all noted) {sorted : List Name}
    (hall : Name.sorted? all = some sorted) : ∃ sorted', Name.sorted? noted = some sorted' := by
  unfold Name.sorted? at hall ⊢
  split at hall
  · rename_i hordered
    refine ⟨_, if_pos ?_⟩
    rw [List.all_eq_true, List.all_eq_true] at hordered ⊢
    rcases hordered with hfew | htexts | hnumbers
    · exact .inl (Nat.le_trans h.length_le hfew)
    · right; left
      intro y hy
      obtain ⟨x, hx, hxy⟩ := h.known y hy
      rw [Name.points?_isSome_iff, ← hxy, ← Name.points?_isSome_iff]
      exact htexts x hx
    · right; right
      intro y hy
      obtain ⟨x, hx, hxy⟩ := h.known y hy
      rw [Name.quantity?_isSome_iff, ← hxy, ← Name.quantity?_isSome_iff]
      exact hnumbers x hx
  · cases hall

def noteName (names : List Name) (u : Name) : List Name :=
  if names.any (·.key = u.key) then names else names ++ [u]

theorem any_key_iff {names : List Name} {k : Key} :
    names.any (·.key = k) ↔ ∃ x ∈ names, x.key = k := by
  simp

theorem noteName_keys {names : List Name} {u : Name} {k : Key} :
    (∃ x ∈ noteName names u, x.key = k) ↔ (∃ x ∈ names, x.key = k) ∨ u.key = k := by
  unfold noteName
  split
  · rename_i hnoted
    rw [any_key_iff] at hnoted
    constructor
    · exact .inl
    · rintro (h | rfl)
      · exact h
      · exact hnoted
  · simp [or_and_right, exists_or]

theorem Among.noteAll (h : Among all noted) (u : Name) : Among (noteName all u) noted :=
  ⟨h.nodup, fun y hy => noteName_keys.2 (.inl (h.known y hy))⟩

theorem Among.note (h : Among all noted) (u : Name) :
    Among (noteName all u) (noteName noted u) := by
  constructor
  · unfold noteName
    split
    · exact h.nodup
    · rename_i hnew
      rw [any_key_iff] at hnew
      rw [List.map_append, List.nodup_append]
      refine ⟨h.nodup, List.nodup_singleton _, ?_⟩
      intro k hk j hj hkj
      obtain ⟨x, hx, rfl⟩ := List.mem_map.1 hk
      rw [List.map_singleton, List.mem_singleton] at hj
      exact hnew ⟨x, hx, hkj.trans hj⟩
  · intro y hy
    rw [noteName_keys]
    rcases noteName_keys.1 ⟨y, hy, rfl⟩ with ⟨x, hx, hxy⟩ | hu
    · obtain ⟨z, hz, hzx⟩ := h.known x hx
      exact .inl ⟨z, hz, hzx.trans hxy⟩
    · exact .inr hu

theorem noteUser_ok_iff {names names' : List Name} {user : Json} :
    noteUser names user = .ok names' ↔ ∃ u, name user = .ok u ∧ noteName names u = names' := by
  simp only [noteUser, bind_ok_iff, pure_ok_iff, noteName]

/-- What an operation names is noted among some of the accounts as it is among all. -/
theorem noteUsers_among {fs : Fields} (hall : noteUsers all fs = .ok all') (h : Among all noted) :
    Among all' noted ∧ ∃ noted', noteUsers noted fs = .ok noted' ∧ Among all' noted' := by
  unfold noteUsers at hall ⊢
  generalize ["user", "borrower"] = fields at hall ⊢
  induction fields generalizing all noted with
  | nil =>
    cases hall
    exact ⟨h, noted, rfl, h⟩
  | cons field rest ih =>
    rw [List.foldlM_cons] at hall
    obtain ⟨all₁, hfield, hall⟩ := bind_ok_iff.1 hall
    cases hfound : Entries.find? field fs with
    | none =>
      simp only [List.foldlM_cons, hfound] at hfield ⊢
      cases hfield
      exact ih h hall
    | some user =>
      simp only [List.foldlM_cons, hfound] at hfield ⊢
      obtain ⟨u, hu, rfl⟩ := noteUser_ok_iff.1 hfield
      obtain ⟨-, noted', hnoted', hamong⟩ := ih (h.note u) hall
      refine ⟨(ih (h.noteAll u) hall).1, noted', ?_, hamong⟩
      rw [noteUser_ok_iff.2 ⟨u, hu, rfl⟩]
      exact hnoted'

end Scenario

end MoneyMarket
