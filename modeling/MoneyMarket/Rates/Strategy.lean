import MoneyMarket.Rates.Kinked
import MoneyMarket.Rates.Governed

/-!
# Rate strategies

A reserve takes its rates from a kinked or from a governed strategy.
-/

namespace MoneyMarket

inductive RateStrategy where
  | kinked (k : Kinked)
  | governed (g : Governed)
  deriving DecidableEq

namespace RateStrategy

def rates (s : RateStrategy) (input : RateInput) : Except Fault InterestRates :=
  match s with
  | kinked k => k.rates input
  | governed g => g.rates input

def set (s : RateStrategy) (setting : GovernedSetting) (caller : String) (value : Int) :
    Except Fault RateStrategy :=
  match s with
  | kinked _ => .error .notGoverned
  | governed g => (g.set setting caller value).map governed

def shipped? (name : String) : Option RateStrategy := do
  let p ← KinkedParams.shipped.lookup name
  (Kinked.ofParams p).toOption.map kinked

end RateStrategy

end MoneyMarket
