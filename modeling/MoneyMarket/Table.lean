/-!
# Insertion-ordered tables

A `Table` maps keys to records and remembers the order in which the keys came. Writing to a key
that is present keeps its place, a new key goes last, and no key occurs twice.
-/

namespace MoneyMarket

/-! ## Entry lists -/

namespace Entries

variable {κ α : Type}

def keys (es : List (κ × α)) : List κ := es.map (·.1)

variable [DecidableEq κ]

/-- Writes `v` at `k`: in place when `k` is present, at the end when it is not. -/
def put (k : κ) (v : α) : List (κ × α) → List (κ × α)
  | [] => [(k, v)]
  | e :: rest => if e.1 = k then (k, v) :: rest else e :: put k v rest

def find? (k : κ) : List (κ × α) → Option α
  | [] => none
  | e :: rest => if e.1 = k then some e.2 else find? k rest

theorem keys_put (k : κ) (v : α) (es : List (κ × α)) :
    keys (put k v es) = if k ∈ keys es then keys es else keys es ++ [k] := by
  induction es with
  | nil => simp [put, keys]
  | cons e rest ih =>
    by_cases h : e.1 = k
    · simp [put, keys, h]
    · have h' : k ≠ e.1 := fun h' => h h'.symm
      have hput : keys (put k v (e :: rest)) = e.1 :: keys (put k v rest) := by simp [put, keys, h]
      have hcons : keys (e :: rest) = e.1 :: keys rest := rfl
      rw [hput, hcons, ih]
      by_cases hm : k ∈ keys rest <;> simp [hm, h']

theorem nodup_put (k : κ) (v : α) {es : List (κ × α)} (h : (keys es).Nodup) :
    (keys (put k v es)).Nodup := by
  rw [keys_put]
  split
  · exact h
  · rename_i hk
    simp only [List.nodup_append, h, List.nodup_cons, List.not_mem_nil, not_false_eq_true,
      List.nodup_nil, and_self, List.mem_cons, or_false, ne_eq, true_and]
    intro a ha b hb hab
    subst hb
    exact hk (hab ▸ ha)

theorem find?_put (k j : κ) (v : α) (es : List (κ × α)) :
    find? j (put k v es) = if j = k then some v else find? j es := by
  induction es with
  | nil => simp [put, find?, eq_comm]
  | cons e rest ih =>
    by_cases h : e.1 = k
    · by_cases hj : j = k
      · simp [put, find?, h, hj]
      · have : ¬ k = j := fun h' => hj h'.symm
        simp [put, find?, h, hj, this]
    · by_cases hj : e.1 = j
      · have : ¬ j = k := hj ▸ h
        simp [put, find?, hj, this]
      · simp [put, find?, h, hj, ih]

theorem mem_of_find? {k : κ} {v : α} {es : List (κ × α)} (h : find? k es = some v) :
    (k, v) ∈ es := by
  induction es with
  | nil => cases h
  | cons e rest ih =>
    unfold find? at h
    split at h
    · rename_i hk
      cases h
      exact hk ▸ List.mem_cons_self
    · exact List.mem_cons_of_mem e (ih h)

theorem find?_of_mem {es : List (κ × α)} (h : (keys es).Nodup) {e : κ × α} (he : e ∈ es) :
    find? e.1 es = some e.2 := by
  induction es with
  | nil => cases he
  | cons d rest ih =>
    obtain ⟨hd, hrest⟩ : d.1 ∉ keys rest ∧ (keys rest).Nodup := List.nodup_cons.1 h
    rcases List.mem_cons.1 he with rfl | he
    · simp [find?]
    · have hne : d.1 ≠ e.1 := by
        intro heq
        rw [heq] at hd
        exact hd (List.mem_map_of_mem he)
      rw [find?, if_neg hne]
      exact ih hrest he

end Entries

/-! ## Tables -/

structure Table (κ α : Type) where
  entries : List (κ × α)
  nodup : (Entries.keys entries).Nodup
  deriving DecidableEq

namespace Table

variable {κ α β : Type}

def empty : Table κ α := ⟨[], by simp [Entries.keys]⟩

instance : EmptyCollection (Table κ α) := ⟨empty⟩
instance : Inhabited (Table κ α) := ⟨empty⟩

def keys (t : Table κ α) : List κ := Entries.keys t.entries

def map (f : κ → α → β) (t : Table κ α) : Table κ β :=
  ⟨t.entries.map fun e => (e.1, f e.1 e.2), by
    have h : Entries.keys (t.entries.map fun e => (e.1, f e.1 e.2)) = Entries.keys t.entries := by
      simp [Entries.keys, List.map_map, Function.comp_def]
    rw [h]; exact t.nodup⟩

@[simp] theorem keys_map (f : κ → α → β) (t : Table κ α) : (t.map f).keys = t.keys := by
  simp [keys, map, Entries.keys, List.map_map, Function.comp_def]

variable [DecidableEq κ]

def get? (t : Table κ α) (k : κ) : Option α := Entries.find? k t.entries

def contains (t : Table κ α) (k : κ) : Bool := (t.get? k).isSome

def set (t : Table κ α) (k : κ) (v : α) : Table κ α :=
  ⟨Entries.put k v t.entries, Entries.nodup_put k v t.nodup⟩

def erase (t : Table κ α) (k : κ) : Table κ α :=
  ⟨t.entries.filter (·.1 ≠ k), by
    have h := t.nodup
    exact h.sublist (List.Sublist.map _ List.filter_sublist)⟩

/-- Writes the pairs in order; a repeated key keeps its first place and its last record. -/
def ofList (es : List (κ × α)) : Table κ α := es.foldl (fun t e => t.set e.1 e.2) empty

@[simp] theorem get?_empty (k : κ) : (empty : Table κ α).get? k = none := rfl

@[simp] theorem get?_set (t : Table κ α) (k j : κ) (v : α) :
    (t.set k v).get? j = if j = k then some v else t.get? j :=
  Entries.find?_put k j v t.entries

theorem keys_set (t : Table κ α) (k : κ) (v : α) :
    (t.set k v).keys = if k ∈ t.keys then t.keys else t.keys ++ [k] :=
  Entries.keys_put k v t.entries

theorem mem_of_get? {t : Table κ α} {k : κ} {v : α} (h : t.get? k = some v) :
    (k, v) ∈ t.entries := Entries.mem_of_find? h

theorem get?_of_mem {t : Table κ α} {e : κ × α} (h : e ∈ t.entries) : t.get? e.1 = some e.2 :=
  Entries.find?_of_mem t.nodup h

end Table

end MoneyMarket
