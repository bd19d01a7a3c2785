import MoneyMarket.Json

/-!
# Equality of JSON values

Two values are equal if all their parts are, fields in the same order. A whole number never equals a
binary64 number here.
-/

namespace MoneyMarket.Json

mutual

def same : Json → Json → Bool
  | null, null => true
  | bool a, bool b => a = b
  | whole a, whole b => a = b
  | real a, real b => a = b
  | text a, text b => a = b
  | list as, list bs => sameItems as bs
  | object as, object bs => sameFields as bs
  | _, _ => false

def sameItems : List Json → List Json → Bool
  | [], [] => true
  | a :: as, b :: bs => same a b && sameItems as bs
  | _, _ => false

def sameFields : List (String × Json) → List (String × Json) → Bool
  | [], [] => true
  | (j, a) :: as, (k, b) :: bs => j = k && same a b && sameFields as bs
  | _, _ => false

end

mutual

theorem same_iff : ∀ a b : Json, same a b ↔ a = b
  | list as, b => by cases b <;> simp [same, sameItems_iff as]
  | object as, b => by cases b <;> simp [same, sameFields_iff as]
  | null, b | bool _, b | whole _, b | real _, b | text _, b => by
    cases b <;> simp [same]

theorem sameItems_iff : ∀ as bs : List Json, sameItems as bs ↔ as = bs
  | [], bs => by cases bs <;> simp [sameItems]
  | a :: as, bs => by cases bs <;> simp [sameItems, same_iff a, sameItems_iff as]

theorem sameFields_iff : ∀ as bs : List (String × Json), sameFields as bs ↔ as = bs
  | [], bs => by cases bs <;> simp [sameFields]
  | (k, a) :: as, bs => by
    cases bs <;> simp [sameFields, same_iff a, sameFields_iff as, Prod.ext_iff]

end

instance : DecidableEq Json := fun a b => decidable_of_iff _ (same_iff a b)

end MoneyMarket.Json
