import MoneyMarket.Table
import MoneyMarket.Fault

/-!
# Prices

Prices are in base currency, in wad, for one whole token. Only whole numbers that are not negative
are taken; an asset without a price has the price zero, and zero is no price to count with. A price
may be reported for anything; it is looked at first, and then the asset has to have a name.
-/

namespace MoneyMarket

structure PriceBoard where
  prices : Table Key Int := ∅
  deriving DecidableEq, Inhabited

namespace PriceBoard

def accepted (asset : Json) (price : Reported) : Except Fault Int :=
  match price.whole? with
  | none => .error (.refused (.priceNotWhole asset price))
  | some n => if n < 0 then .error (.refused (.priceNegative asset n)) else .ok n

def setPrice (b : PriceBoard) (asset : Json) (price : Reported) : Except Fault PriceBoard := do
  let n ← accepted asset price
  return ⟨b.prices.set (← asset.named) n⟩

def ofPrices (prices : Table String Reported) : Except Fault PriceBoard :=
  prices.entries.foldlM (fun b e => b.setPrice (.text e.1) e.2) {}

def price (b : PriceBoard) (asset : Key) : Int := (b.prices.get? asset).getD 0

def usable (asset : Name) (price : Reported) : Except Fault Int :=
  match price.whole? with
  | some n => if 0 < n then .ok n else .error (.refused (.priceUnusable asset price))
  | none => .error (.refused (.priceUnusable asset price))

def requirePrice (b : PriceBoard) (asset : Name) : Except Fault Int :=
  usable asset (.whole (b.price asset))

theorem requirePrice_eq_ok {b : PriceBoard} {asset : Name} {n : Int} :
    b.requirePrice asset = .ok n ↔ b.price asset = n ∧ 0 < n := by
  by_cases h : 0 < b.price asset
  · simp only [requirePrice, usable, Reported.whole?_whole, h, if_true, Except.ok.injEq]
    exact ⟨fun e => ⟨e, e ▸ h⟩, fun e => e.1⟩
  · simp only [requirePrice, usable, Reported.whole?_whole, h, if_false, reduceCtorEq, false_iff]
    rintro ⟨rfl, hn⟩
    exact h hn

end PriceBoard

end MoneyMarket
