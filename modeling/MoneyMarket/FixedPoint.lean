import MoneyMarket.Fault

/-!
# Fixed-point arithmetic

Amounts are whole numbers that carry a fixed number of decimal places: eighteen in a wad (values
in base currency, health factors), twenty-seven in a ray (rates, indices), four in basis points
(loan-to-value, thresholds, bonuses). Products and quotients take operands that are not negative
and round to nearest, a half up.
-/

namespace MoneyMarket.FixedPoint

def wad : Int := 1000000000000000000
def halfWad : Int := 500000000000000000
def ray : Int := 1000000000000000000000000000
def halfRay : Int := 500000000000000000000000000

def raysPerWad : Int := 1000000000

def whole : Int := 10000
def halfWhole : Int := 5000

/-- The largest amount there is. It asks for all of a balance, and is the health factor of an
account without debt. -/
def maxAmount : Int :=
  115792089237316195423570985008687907853269984665640564039457584007913129639935

/-! ## Operands -/

def requireNonNegative (v : Int) : Except Fault Unit :=
  if v < 0 then .error (.invalid (.negativeOperand (.whole v))) else .ok ()

theorem requireNonNegative_ok {v : Int} (h : 0 ≤ v) : requireNonNegative v = .ok () := by
  simp [requireNonNegative, Int.not_lt.2 h]

/-! ## Rounding half up

The operations below are these on operands that have been checked. -/

/-- `a · b / unit`, a half up. -/
def mulRound (unit half a b : Int) : Int := (a * b + half) / unit

/-- `a · unit / b`, a half up. -/
def divRound (unit a b : Int) : Int := (a * unit + b / 2) / b

def mulChecked (unit half a b : Int) : Except Fault Int := do
  requireNonNegative a
  requireNonNegative b
  return mulRound unit half a b

def divChecked (scale : Scale) (unit a b : Int) : Except Fault Int := do
  requireNonNegative a
  requireNonNegative b
  if b = 0 then .error (.refused (.zeroDivisor scale)) else return divRound unit a b

theorem mulChecked_ok (unit half : Int) {a b : Int} (ha : 0 ≤ a) (hb : 0 ≤ b) :
    mulChecked unit half a b = .ok (mulRound unit half a b) := by
  simp [mulChecked, requireNonNegative_ok ha, requireNonNegative_ok hb]; rfl

theorem divChecked_ok (scale : Scale) (unit : Int) {a b : Int} (ha : 0 ≤ a) (hb : 0 < b) :
    divChecked scale unit a b = .ok (divRound unit a b) := by
  simp [divChecked, requireNonNegative_ok ha, requireNonNegative_ok (Int.le_of_lt hb),
    Int.ne_of_gt hb]; rfl

def wadMul (a b : Int) : Except Fault Int := mulChecked wad halfWad a b

def wadDiv (a b : Int) : Except Fault Int := divChecked .wad wad a b

def rayMul (a b : Int) : Except Fault Int := mulChecked ray halfRay a b

def rayDiv (a b : Int) : Except Fault Int := divChecked .ray ray a b

def percentMul (value bps : Int) : Except Fault Int := mulChecked whole halfWhole value bps

/-- The amount of which `value` is the share of `bps` basis points. -/
def percentDiv (value bps : Int) : Except Fault Int := divChecked .percent whole value bps

/-! ## Conversions -/

def rayToWad (a : Int) : Except Fault Int := do
  requireNonNegative a
  return (a + raysPerWad / 2) / raysPerWad

def wadToRay (a : Int) : Except Fault Int := do
  requireNonNegative a
  return a * raysPerWad

def bpsToRay (bps : Int) : Except Fault Int := do
  requireNonNegative bps
  return bps * ray / whole

theorem wadToRay_ok {a : Int} (ha : 0 ≤ a) : wadToRay a = .ok (a * raysPerWad) := by
  simp only [wadToRay, requireNonNegative_ok ha]
  rfl

end MoneyMarket.FixedPoint
