import MoneyMarket.Json
import MoneyMarket.Quantity

/-!
# Names of accounts and assets

An account or an asset is called by a single value: most often a text, but also a number, a flag or
null. A `Name` is the value as it was spelled, and its `Key` is what it stands for: names with one
key call the same account. Flags are the numbers zero and one, a whole number may be spelled with a
fraction of zero, and a text is never a number.
-/

namespace MoneyMarket

def Quantity.toJson : Quantity → Json
  | .whole n => .whole n
  | .real x => .real x

/-! ## Keys -/

inductive Key where
  | null
  | whole (n : Int)
  | fraction (bits : UInt64)
  | text (s : String)
  deriving DecidableEq, Repr

namespace Key

def ofReal (x : Float) : Key :=
  match Binary64.whole? x with
  | some n => whole n
  | none => fraction (if x.isNaN then Binary64.notANumber else x).toBits

def plain : Key → String
  | null => Json.null.plain
  | whole n => toString n
  | fraction bits => Binary64.text (Float.ofBits bits)
  | text s => s

end Key

/-! ## Names -/

inductive Name where
  | null
  | flag (b : Bool)
  | whole (n : Int)
  | real (x : Float)
  | text (s : String)
  deriving DecidableEq, Repr

namespace Name

instance : Inhabited Name := ⟨null⟩

@[coe] def key : Name → Key
  | null => .null
  | flag b => .whole (if b then 1 else 0)
  | whole n => .whole n
  | real x => .ofReal x
  | text s => .text s

instance : Coe Name Key := ⟨key⟩

@[simp] theorem key_text (s : String) : (text s).key = .text s := rfl

@[coe] def toJson : Name → Json
  | null => .null
  | flag b => .bool b
  | whole n => .whole n
  | real x => .real x
  | text s => .text s

instance : Coe Name Json := ⟨toJson⟩

def plain (name : Name) : String := name.toJson.plain

instance : ToString Name := ⟨plain⟩

end Name

/-- The name that a value is. Lists and objects are none. -/
def Json.name? : Json → Option Name
  | null => some .null
  | bool b => some (.flag b)
  | whole n => some (.whole n)
  | real x => some (.real x)
  | text s => some (.text s)
  | list _ => none
  | object _ => none

@[simp] theorem Json.name?_toJson (name : Name) : name.toJson.name? = some name := by
  cases name <;> rfl

namespace Name

/-! ## Order -/

def points? : Name → Option (List Nat)
  | text s => some (Text.points s)
  | _ => none

def quantity? : Name → Option Quantity
  | flag b => some (.whole (if b then 1 else 0))
  | whole n => some (.whole n)
  | real x => some (.real x)
  | _ => none

def lt (a b : Name) : Bool :=
  match a.points?, b.points?, a.quantity?, b.quantity? with
  | some as, some bs, _, _ => as < bs
  | _, _, some m, some n => m.lt n
  | _, _, _, _ => false

/-- Texts in order of their code points, or numbers in order of their values. Names of different
kinds have no order. -/
def sorted? (names : List Name) : Option (List Name) :=
  if names.length ≤ 1 ∨ names.all (·.points?.isSome) ∨ names.all (·.quantity?.isSome) then
    some (names.mergeSort fun a b => !b.lt a)
  else none

end Name

end MoneyMarket
