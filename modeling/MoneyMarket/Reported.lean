import MoneyMarket.Json

/-!
# Reported figures

What an outside source reports where a whole number is expected. Only `whole` is one; the market
checks before it believes.
-/

namespace MoneyMarket

inductive Reported where
  | whole (n : Int)
  | real (x : Float)
  | flag (b : Bool)
  | text (s : String)
  | missing
  deriving Inhabited

namespace Reported

def whole? : Reported → Option Int
  | whole n => some n
  | _ => none

def toJson : Reported → Json
  | whole n => .whole n
  | real x => .real x
  | flag b => .bool b
  | text s => .text s
  | missing => .null

def shown (r : Reported) : String := r.toJson.shown

@[simp] theorem whole?_whole (n : Int) : (whole n).whole? = some n := rfl

end Reported

end MoneyMarket
