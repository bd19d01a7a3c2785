import MoneyMarket.Proofs.Numeral.Significant

/-!
# Plain decimal numerals

A plain numeral is an optional sign and digits with an optional point among or around them. It is
read as what it says, digit for digit, unless it has more places or digits than any numeral may
have. Every whole number of units can be written as a plain numeral of any number of places.
-/

namespace MoneyMarket

open Text Numeral

inductive Sign where
  | absent | plus | minus
  deriving DecidableEq, Repr

def Sign.chars : Sign → List Char
  | absent => []
  | plus => ['+']
  | minus => ['-']

structure PlainNumeral where
  sign : Sign := .absent
  whole : List (Fin 10)
  fraction : Option (List (Fin 10)) := none
  nonempty : whole ++ fraction.getD [] ≠ []

namespace PlainNumeral

def digitChar (d : Fin 10) : Char := Char.ofNat (48 + d)

def unsignedChars (d : PlainNumeral) : List Char :=
  d.whole.map digitChar ++ match d.fraction with
    | none => []
    | some ds => '.' :: ds.map digitChar

def chars (d : PlainNumeral) : List Char := d.sign.chars ++ d.unsignedChars

def text (d : PlainNumeral) : String := String.ofList d.chars

/-! ## What it says -/

def value (ds : List (Fin 10)) : Nat := digitsValue (ds.map Fin.val)

def negative (d : PlainNumeral) : Bool := d.sign = .minus

def coefficient (d : PlainNumeral) : Nat := value (d.whole ++ d.fraction.getD [])

def places (d : PlainNumeral) : Nat := (d.fraction.getD []).length

def signed (d : PlainNumeral) (n : Nat) : Int := if d.negative then -n else n

/-- The numeral says `numerator / 10 ^ places`. -/
def numerator (d : PlainNumeral) : Int := d.signed d.coefficient

/-! ## Reading it -/

variable (d : PlainNumeral)

theorem isDigit_digitChar (x : Fin 10) : Decimal.isDigit (digitChar x) = true := by
  decide +revert

theorem digitChar_toNat (x : Fin 10) : (digitChar x).toNat - 48 = x := by
  decide +revert

theorem forall_mem_chars {P : Char → Prop} (hplus : P '+') (hminus : P '-') (hpoint : P '.')
    (hdigit : ∀ x, P (digitChar x)) {c : Char} (h : c ∈ d.chars) : P c := by
  have hdigits : ∀ ds : List (Fin 10), c ∈ ds.map digitChar → P c := by
    intro ds hc
    obtain ⟨x, -, rfl⟩ := List.mem_map.1 hc
    exact hdigit x
  rcases List.mem_append.1 h with hsign | hc
  · cases hkind : d.sign with
    | absent => simp [hkind, Sign.chars] at hsign
    | plus =>
      rw [hkind, Sign.chars, List.mem_singleton] at hsign
      exact hsign ▸ hplus
    | minus =>
      rw [hkind, Sign.chars, List.mem_singleton] at hsign
      exact hsign ▸ hminus
  · rcases List.mem_append.1 hc with hwhole | hrest
    · exact hdigits _ hwhole
    · cases hf : d.fraction with
      | none => simp [hf] at hrest
      | some ds =>
        rw [hf] at hrest
        rcases List.mem_cons.1 hrest with rfl | hfraction
        · exact hpoint
        · exact hdigits _ hfraction

/-- The characters that are read as they stand. -/
def Stands (c : Char) : Prop := isBlank c = false ∧ c ≠ '_' ∧ Decimal.plainChar c = c

instance (c : Char) : Decidable (Stands c) := inferInstanceAs (Decidable (_ ∧ _))

theorem stands_of_mem {c : Char} (h : c ∈ d.chars) : Stands c :=
  d.forall_mem_chars (by decide) (by decide) (by decide) (by decide) h

theorem dropWhile_eq_self {p : Char → Bool} {cs : List Char} (h : ∀ c ∈ cs, p c = false) :
    cs.dropWhile p = cs := by
  cases cs with
  | nil => rfl
  | cons c rest => rw [List.dropWhile_cons_of_neg (by simp [h c (by simp)])]

theorem plainChars_text : Decimal.plainChars d.text = d.chars := by
  have hblank : ∀ c ∈ d.chars, isBlank c = false := fun c hc => (d.stands_of_mem hc).1
  have htrim : trimWith isBlank d.chars = d.chars := by
    rw [trimWith, dropWhile_eq_self hblank, dropWhile_eq_self (by simpa using hblank),
      List.reverse_reverse]
  have hfilter : d.chars.filter (· ≠ '_') = d.chars :=
    List.filter_eq_self.2 fun c hc => by simpa using (d.stands_of_mem hc).2.1
  rw [Decimal.plainChars, text, String.toList_ofList, htrim, hfilter]
  exact (List.map_congr_left fun c hc => (d.stands_of_mem hc).2.2).trans (List.map_id _)

theorem takeWhile_digits (ds : List (Fin 10)) (rest : List Char)
    (h : ∀ c ∈ rest.head?, Decimal.isDigit c = false) :
    (ds.map digitChar ++ rest).takeWhile Decimal.isDigit = ds.map digitChar ∧
      (ds.map digitChar ++ rest).dropWhile Decimal.isDigit = rest := by
  induction ds with
  | nil =>
    cases rest with
    | nil => simp
    | cons c rest => simp [h c (by simp)]
  | cons x ds ih => simp [isDigit_digitChar, ih.1, ih.2]

theorem digits_map_digitChar (ds : List (Fin 10)) :
    Decimal.digits (ds.map digitChar) = ds.map Fin.val := by
  rw [Decimal.digits, List.map_map]
  exact List.map_congr_left fun x _ => digitChar_toNat x

theorem unsigned?_unsignedChars (negative : Bool) :
    Decimal.unsigned? negative d.unsignedChars =
      some (.finite negative d.coefficient (-d.places)) := by
  have hall (ds : List (Fin 10)) := takeWhile_digits ds [] (by simp)
  unfold Decimal.unsigned? unsignedChars coefficient places value
  have hsome := d.nonempty
  cases hf : d.fraction with
  | none =>
    simp only [hf, Option.getD_none, List.append_nil] at hsome ⊢
    obtain ⟨htake, hdrop⟩ := hall d.whole
    rw [List.append_nil] at htake hdrop
    simp [htake, hdrop, hsome, Decimal.exponent?, digits_map_digitChar]
  | some ds =>
    obtain ⟨htake, hdrop⟩ := takeWhile_digits d.whole ('.' :: ds.map digitChar) (by simp; decide)
    obtain ⟨htake', hdrop'⟩ := hall ds
    rw [List.append_nil] at htake' hdrop'
    rw [hf, Option.getD_some] at hsome
    have hsome' : ¬ (d.whole.map digitChar = [] ∧ ds.map digitChar = []) := by simpa using hsome
    simp only [htake, hdrop, htake', hdrop', if_neg hsome']
    simp [Decimal.exponent?, ← List.map_append, digits_map_digitChar]

theorem special?_of_head (negative : Bool) {c : Char} {cs : List Char}
    (h : c = '.' ∨ Decimal.isDigit c = true) : Decimal.special? negative (c :: cs) = none := by
  unfold Decimal.special?
  split <;> simp_all [Decimal.isDigit]

theorem exists_head : ∃ c cs, d.unsignedChars = c :: cs ∧ (c = '.' ∨ Decimal.isDigit c = true) := by
  unfold unsignedChars
  have hsome := d.nonempty
  cases hw : d.whole with
  | cons x ds => exact ⟨_, _, rfl, .inr (isDigit_digitChar x)⟩
  | nil =>
    cases hf : d.fraction with
    | none => simp [hw, hf] at hsome
    | some ds => exact ⟨_, _, rfl, .inl rfl⟩

/-- A plain numeral is read as what it says, if it may have that many places and digits. -/
theorem read?_text :
    Decimal.read? d.text =
      (some (Decimal.finite d.negative d.coefficient (-d.places))).filter Decimal.inRange := by
  obtain ⟨c, cs, hchars, hc⟩ := d.exists_head
  have hread (negative : Bool) :
      (Decimal.special? negative (c :: cs)).or (Decimal.unsigned? negative (c :: cs)) =
        some (.finite negative d.coefficient (-d.places)) := by
    rw [special?_of_head negative hc, Option.none_or, ← hchars, unsigned?_unsignedChars]
  -- a numeral without a sign starts with no sign
  have hdigit : c ≠ '-' ∧ c ≠ '+' := by
    rcases hc with rfl | hc
    · decide
    · constructor
      · rintro rfl
        simp [Decimal.isDigit] at hc
      · rintro rfl
        simp [Decimal.isDigit] at hc
  rw [Decimal.read?, plainChars_text, chars, hchars, negative]
  cases d.sign with
  | absent =>
    simp only [Sign.chars, List.nil_append]
    split
    · rename_i heq
      cases heq
      exact absurd rfl hdigit.1
    · rename_i heq
      cases heq
      exact absurd rfl hdigit.2
    · rw [hread]
      rfl
  | plus => simp [Sign.chars, hread]
  | minus => simp [Sign.chars, hread]

/-! ## Writing one -/

/-- The last `count` digits of a number, zeros in front if it has fewer. -/
def lastDigits : Nat → Nat → List (Fin 10)
  | 0, _ => []
  | count + 1, n => lastDigits count (n / 10) ++ [Fin.ofNat 10 n]

theorem length_lastDigits (count n : Nat) : (lastDigits count n).length = count := by
  induction count generalizing n with
  | zero => rfl
  | succ count ih => rw [lastDigits, List.length_append, ih, List.length_singleton]

theorem value_lastDigits (count : Nat) {n : Nat} (h : n < tenPow count) :
    value (lastDigits count n) = n := by
  induction count generalizing n with
  | zero =>
    have hzero : n = 0 := Nat.lt_one_iff.1 h
    rw [hzero]
    rfl
  | succ count ih =>
    rw [tenPow_succ] at h
    have hinit : value (lastDigits count (n / 10)) = n / 10 := ih (by omega)
    rw [value] at hinit
    rw [value, lastDigits, List.map_append, List.map_singleton, digitsValue_append_one, hinit]
    exact Nat.div_add_mod n 10

def width (n k : Nat) : Nat := max (digitCount n) (k + 1)

def pointed : List (Fin 10) → Option (List (Fin 10))
  | [] => none
  | d :: ds => some (d :: ds)

theorem getD_pointed (ds : List (Fin 10)) : (pointed ds).getD [] = ds := by
  cases ds <;> rfl

def writing (n : Int) (k : Nat) : PlainNumeral where
  sign := if n < 0 then .minus else .absent
  whole := (lastDigits (width n.natAbs k) n.natAbs).take (width n.natAbs k - k)
  fraction := pointed ((lastDigits (width n.natAbs k) n.natAbs).drop (width n.natAbs k - k))
  nonempty := by
    rw [getD_pointed, List.take_append_drop, ← List.length_pos_iff, length_lastDigits, width]
    omega

theorem writing_places (n : Int) (k : Nat) : (writing n k).places = k := by
  have hwide : k ≤ width n.natAbs k := by
    unfold width
    omega
  rw [places, writing, getD_pointed, List.length_drop, length_lastDigits]
  omega

theorem writing_numerator (n : Int) (k : Nat) : (writing n k).numerator = n := by
  have hwide : n.natAbs < tenPow (width n.natAbs k) :=
    (lt_tenPow_digitCount _).trans_le (Nat.pow_le_pow_right (by decide) (le_max_left ..))
  have hcoefficient : (writing n k).coefficient = n.natAbs := by
    rw [coefficient, writing, getD_pointed, List.take_append_drop, value_lastDigits _ hwide]
  have hnegative : (writing n k).negative = true ↔ n < 0 := by
    unfold negative writing
    by_cases hn : n < 0 <;> simp [hn]
  rw [numerator, signed, hcoefficient]
  split
  · have := hnegative.1 ‹_›
    omega
  · have := mt hnegative.2 ‹_›
    omega

end PlainNumeral

end MoneyMarket
