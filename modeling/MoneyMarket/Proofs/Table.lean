import MoneyMarket.Ledger.Checkpoint
import Mathlib.Data.List.Nodup

/-!
# Tables over time

Going back to an earlier state of a table gives the records of that state. Where records were only
added or changed in place, it also gives their order.
-/

namespace MoneyMarket

namespace Entries

variable {κ α : Type} [DecidableEq κ]

theorem find?_eq_none_iff {k : κ} {es : List (κ × α)} : find? k es = none ↔ k ∉ keys es := by
  induction es with
  | nil => simp [find?, keys]
  | cons e rest ih =>
    have hkeys : keys (e :: rest) = e.1 :: keys rest := rfl
    rw [hkeys, List.mem_cons, not_or, ← ih]
    simp only [find?]
    split
    · rename_i h
      refine iff_of_false (fun hnone => ?_) fun hk => hk.1 h.symm
      cases hnone
    · rename_i h
      exact ⟨fun h' => ⟨fun e => h e.symm, h'⟩, fun h' => h'.2⟩

theorem filterMap_keys {es : List (κ × α)} (h : (keys es).Nodup) :
    (keys es).filterMap (fun k => (find? k es).map fun v => (k, v)) = es := by
  have hes : ∀ ds : List (κ × α), (∀ e ∈ ds, e ∈ es) →
      (keys ds).filterMap (fun k => (find? k es).map fun v => (k, v)) = ds := by
    intro ds
    induction ds with
    | nil => intro _; rfl
    | cons d rest ih =>
      intro hsub
      have hd := find?_of_mem h (hsub d List.mem_cons_self)
      have hrest := ih fun e he => hsub e (List.mem_cons_of_mem _ he)
      show List.filterMap _ (d.1 :: keys rest) = _
      simp only [List.filterMap_cons, hd, Option.map_some, hrest]
  exact hes es fun _ he => he

theorem restored_of_prefix {live saved : List (κ × α)} (h : (keys saved).Nodup)
    (hp : keys saved <+: keys live) (hlive : (keys live).Nodup) : restored live saved = saved := by
  obtain ⟨more, hmore⟩ := hp
  have hnew : ∀ k ∈ more, find? k saved = none := by
    intro k hk
    rw [← hmore] at hlive
    rw [find?_eq_none_iff]
    intro hs
    exact (List.disjoint_of_nodup_append hlive) hs hk
  have hkept : live.filterMap (fun e => (find? e.1 saved).map fun v => (e.1, v)) = saved := by
    have hkeys : live.filterMap (fun e => (find? e.1 saved).map fun v => (e.1, v)) =
        (keys live).filterMap fun k => (find? k saved).map fun v => (k, v) := by
      rw [keys, List.filterMap_map]
      rfl
    rw [hkeys, ← hmore, List.filterMap_append, filterMap_keys h]
    have : more.filterMap (fun k => (find? k saved).map fun v => (k, v)) = [] := by
      rw [List.filterMap_eq_nil_iff]
      intro k hk
      rw [hnew k hk]
      rfl
    rw [this, List.append_nil]
  have hnone : saved.filter (fun e => e.1 ∉ keys live) = [] := by
    rw [List.filter_eq_nil_iff]
    intro e he
    have : e.1 ∈ keys live := hmore ▸ List.mem_append_left _ (List.mem_map_of_mem he)
    simpa using this
  unfold restored
  rw [hkept, hnone, List.append_nil]

/-! ### Going back to any state -/

theorem find?_append (k : κ) (es ds : List (κ × α)) :
    find? k (es ++ ds) = (find? k es).or (find? k ds) := by
  induction es with
  | nil => rfl
  | cons e rest ih =>
    rw [List.cons_append, find?, find?]
    split
    · rfl
    · exact ih

theorem find?_kept (k : κ) (live saved : List (κ × α)) :
    find? k (live.filterMap fun e => (find? e.1 saved).map fun v => (e.1, v)) =
      if k ∈ keys live then find? k saved else none := by
  induction live with
  | nil => rfl
  | cons e rest ih =>
    have hkeys : k ∈ keys (e :: rest) ↔ k = e.1 ∨ k ∈ keys rest := List.mem_cons
    rw [List.filterMap_cons]
    by_cases hk : e.1 = k
    · subst hk
      rw [if_pos (hkeys.2 (.inl rfl))]
      cases hsaved : find? e.1 saved with
      | none => simpa [hsaved] using ih
      | some v => simp [find?]
    · have hrest : k ∈ keys (e :: rest) ↔ k ∈ keys rest :=
        hkeys.trans (or_iff_right fun h => hk h.symm)
      rw [if_congr hrest rfl rfl, ← ih]
      cases find? e.1 saved with
      | none => rfl
      | some v => exact if_neg hk

theorem find?_missing (k : κ) (live saved : List (κ × α)) :
    find? k (saved.filter fun e => e.1 ∉ keys live) =
      if k ∈ keys live then none else find? k saved := by
  induction saved with
  | nil => exact (ite_self _).symm
  | cons e rest ih =>
    rw [List.filter_cons]
    by_cases hk : e.1 = k
    · subst hk
      by_cases hlive : e.1 ∈ keys live
      · simpa [hlive] using ih
      · simp [hlive, find?]
    · have hskip : find? k (e :: rest) = find? k rest := if_neg hk
      rw [hskip, ← ih]
      split
      · exact if_neg hk
      · rfl

theorem find?_restored (k : κ) (live saved : List (κ × α)) :
    find? k (restored live saved) = find? k saved := by
  rw [restored, find?_append, find?_kept, find?_missing]
  split
  · exact Option.or_none
  · rfl

theorem nodup_restored {live saved : List (κ × α)} (hlive : (keys live).Nodup)
    (hsaved : (keys saved).Nodup) : (keys (restored live saved)).Nodup := by
  have hkept : keys (live.filterMap fun e => (find? e.1 saved).map fun v => (e.1, v)) =
      (keys live).filter fun k => (find? k saved).isSome := by
    induction live with
    | nil => rfl
    | cons e rest ih =>
      have hrest := ih (List.nodup_cons.1 hlive).2
      show keys (List.filterMap _ (e :: rest)) = List.filter _ (e.1 :: keys rest)
      rw [List.filterMap_cons, List.filter_cons]
      cases find? e.1 saved with
      | none => exact hrest
      | some v => exact congrArg (e.1 :: ·) hrest
  have hmissing : keys (saved.filter fun e => e.1 ∉ keys live) =
      (keys saved).filter fun k => k ∉ keys live := by
    unfold keys
    rw [List.filter_map]
    rfl
  have happend : keys (restored live saved) =
      keys (live.filterMap fun e => (find? e.1 saved).map fun v => (e.1, v)) ++
        keys (saved.filter fun e => e.1 ∉ keys live) := List.map_append
  rw [happend, hkept, hmissing]
  refine List.Nodup.append (hlive.filter _) (hsaved.filter _) ?_
  intro k hk hk'
  exact (by simpa using (List.mem_filter.1 hk').2 : k ∉ keys live) (List.mem_filter.1 hk).1

theorem put_of_notMem {k : κ} {v : α} {es : List (κ × α)} (h : k ∉ keys es) :
    put k v es = es ++ [(k, v)] := by
  induction es with
  | nil => rfl
  | cons e rest ih =>
    have hkeys : keys (e :: rest) = e.1 :: keys rest := rfl
    rw [hkeys, List.mem_cons, not_or] at h
    rw [put, if_neg fun he => h.1 he.symm, ih h.2]
    rfl

/-- Writing at a key changes what stands there, or adds it at the end, and nothing else. -/
theorem put_split (k : κ) {es : List (κ × α)} (h : (keys es).Nodup) :
    ∃ before after, (∀ e ∈ before ++ after, e.1 ≠ k) ∧
      es = before ++ ((find? k es).map (k, ·)).toList ++ after ∧
      ∀ v, put k v es = before ++ (k, v) :: after := by
  induction es with
  | nil => exact ⟨[], [], by simp, rfl, fun _ => rfl⟩
  | cons e rest ih =>
    obtain ⟨he, hrest⟩ : e.1 ∉ keys rest ∧ (keys rest).Nodup := List.nodup_cons.1 h
    by_cases hk : e.1 = k
    · subst hk
      refine ⟨[], rest, ?_, by simp [find?], fun v => by simp [put]⟩
      intro d hd heq
      exact he (heq ▸ List.mem_map_of_mem hd)
    · obtain ⟨before, after, hne, hes, hput⟩ := ih hrest
      refine ⟨e :: before, after, ?_, ?_, fun v => ?_⟩
      · rintro d hd
        rcases List.mem_cons.1 hd with rfl | hd
        · exact hk
        · exact hne d hd
      · rw [find?, if_neg hk]
        exact congrArg (e :: ·) hes
      · rw [put, if_neg hk, hput]
        rfl

end Entries

namespace Table

variable {κ α : Type}

theorem ext_entries {t u : Table κ α} (h : t.entries = u.entries) : t = u := by
  cases t
  cases u
  cases h
  rfl

theorem map_eq_self {t : Table κ α} {f : κ → α → α} (h : ∀ e ∈ t.entries, f e.1 e.2 = e.2) :
    t.map f = t := by
  refine ext_entries ?_
  show t.entries.map (fun e => (e.1, f e.1 e.2)) = t.entries
  rw [List.map_congr_left fun e he => by rw [h e he], List.map_id']

variable [DecidableEq κ]

theorem foldl_set_entries (es : List (κ × α)) (t : Table κ α)
    (h : (Entries.keys (t.entries ++ es)).Nodup) :
    (es.foldl (fun t e => t.set e.1 e.2) t).entries = t.entries ++ es := by
  induction es generalizing t with
  | nil => simp
  | cons e rest ih =>
    have hput : (t.set e.1 e.2).entries = t.entries ++ [e] := by
      refine Entries.put_of_notMem fun hmem => ?_
      have hdisj : (Entries.keys t.entries ++ e.1 :: Entries.keys rest).Nodup := by
        simpa [Entries.keys] using h
      exact List.disjoint_of_nodup_append hdisj hmem List.mem_cons_self
    rw [List.foldl_cons, ih]
    · rw [hput, List.append_assoc]
      rfl
    · rw [hput, List.append_assoc]
      exact h

theorem ofList_entries (t : Table κ α) : ofList t.entries = t := by
  refine ext_entries ?_
  exact foldl_set_entries t.entries empty t.nodup

theorem restore_of_prefix {live saved : Table κ α} (h : saved.keys <+: live.keys) :
    live.restore saved = saved := by
  unfold restore
  rw [Entries.restored_of_prefix saved.nodup h live.nodup]
  exact ofList_entries saved

theorem get?_restore (live saved : Table κ α) (k : κ) :
    (live.restore saved).get? k = saved.get? k := by
  have hentries : (live.restore saved).entries = Entries.restored live.entries saved.entries :=
    foldl_set_entries _ empty (Entries.nodup_restored live.nodup saved.nodup)
  unfold get?
  rw [hentries, Entries.find?_restored]

theorem get?_map {β : Type} (f : κ → α → β) (t : Table κ α) (k : κ) :
    (t.map f).get? k = (t.get? k).map (f k) := by
  show Entries.find? k (t.entries.map fun e => (e.1, f e.1 e.2)) =
    (Entries.find? k t.entries).map (f k)
  induction t.entries with
  | nil => rfl
  | cons e rest ih =>
    rw [List.map_cons, Entries.find?, Entries.find?]
    split
    · rename_i hk
      rw [← hk]
      rfl
    · exact ih

theorem keys_prefix_set (t : Table κ α) (k : κ) (v : α) : t.keys <+: (t.set k v).keys := by
  rw [keys_set]
  split
  · exact List.prefix_refl _
  · exact List.prefix_append _ _

theorem entries_split (t : Table κ α) (k : κ) :
    ∃ before after, (∀ e ∈ before ++ after, e.1 ≠ k) ∧
      t.entries = before ++ ((t.get? k).map (k, ·)).toList ++ after ∧
      ∀ v, (t.set k v).entries = before ++ (k, v) :: after := Entries.put_split k t.nodup

theorem set_set (t : Table κ α) (k : κ) (v w : α) : (t.set k v).set k w = t.set k w := by
  obtain ⟨before, after, hne, -, hset⟩ := t.entries_split k
  apply ext_entries
  rw [hset w]
  show Entries.put k w (t.set k v).entries = _
  rw [hset v]
  clear hset
  induction before with
  | nil => simp [Entries.put]
  | cons e rest ih =>
    have hk : e.1 ≠ k := hne e (by simp)
    have hrest := ih fun d hd => hne d (by simp_all)
    simp only [List.cons_append, Entries.put, if_neg hk, hrest]

theorem set_get? {t : Table κ α} {k : κ} {v : α} (h : t.get? k = some v) : t.set k v = t := by
  obtain ⟨before, after, -, hentries, hset⟩ := t.entries_split k
  apply ext_entries
  rw [hset, hentries, h]
  simp

end Table

end MoneyMarket
