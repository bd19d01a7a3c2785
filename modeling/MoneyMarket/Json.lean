import MoneyMarket.Table
import MoneyMarket.Numeral.Shortest
import MoneyMarket.Text.Quoted

/-!
# JSON documents

A document keeps the order of an object's fields, and whole numbers apart from numbers with a
fraction or an exponent.
-/

namespace MoneyMarket

inductive Json where
  | null
  | bool (b : Bool)
  | whole (n : Int)
  | real (x : Float)
  | text (s : String)
  | list (items : List Json)
  | object (fields : List (String × Json))
  deriving Inhabited

namespace Json

/-! ## How a value is shown in a message -/

mutual

def shown : Json → String
  | null => "None"
  | bool b => if b then "True" else "False"
  | whole n => toString n
  | real x => Binary64.text x
  | text s => Text.quoted s
  | list items => "[" ++ ", ".intercalate (shownItems items) ++ "]"
  | object fields => "\x7b" ++ ", ".intercalate (shownFields fields) ++ "\x7d"

def shownItems : List Json → List String
  | [] => []
  | v :: rest => shown v :: shownItems rest

def shownFields : List (String × Json) → List String
  | [] => []
  | (k, v) :: rest => (Text.quoted k ++ ": " ++ shown v) :: shownFields rest

end

/-- A text stands for itself, any other value is shown. -/
def plain : Json → String
  | text s => s
  | v => shown v

/-- Everything counts as true but null, false, zero, and what is empty. -/
def truthy : Json → Bool
  | null => false
  | bool b => b
  | whole n => n ≠ 0
  | real x => x != 0
  | text s => s ≠ ""
  | list items => !items.isEmpty
  | object fields => !fields.isEmpty

end Json

end MoneyMarket
