import MoneyMarket.FixedPoint

/-!
# Arithmetic of quantities

Whole operands give whole results, which are those of fixed-point arithmetic. As soon as one
operand is a binary64 number the other one is converted and the operation is done in binary64,
which fails for a whole number beyond the largest one.
-/

namespace MoneyMarket.Quantity

def toFloat : Quantity → Except Fault Float
  | whole n => match Binary64.ofWhole? n with
    | some x => .ok x
    | none => .error .tooLarge
  | real x => .ok x

/-- Does the one on whole operands, the other on all others. -/
def combine (exact : Int → Int → Int) (rounded : Float → Float → Float) (a b : Quantity) :
    Except Fault Quantity :=
  match a, b with
  | whole m, whole n => .ok (whole (exact m n))
  | a, b => do
    let x ← a.toFloat
    let y ← b.toFloat
    return real (rounded x y)

def add : Quantity → Quantity → Except Fault Quantity := combine (· + ·) (· + ·)

def sub : Quantity → Quantity → Except Fault Quantity := combine (· - ·) (· - ·)

def mul : Quantity → Quantity → Except Fault Quantity := combine (· * ·) (· * ·)

def floorDiv (a b : Quantity) : Except Fault Quantity :=
  match a, b with
  | whole m, whole n => if n = 0 then .error .divisionByZero else .ok (whole (m.fdiv n))
  | a, b => do
    let x ← a.toFloat
    let y ← b.toFloat
    if y == 0.0 then throw .divisionByZero
    return real (Binary64.floorQuotient x y)

/-- The whole number that it is. The market books a binary64 number too, as it is, but a ledger is
described in whole numbers only: the description ends there. -/
def booked : Quantity → Except Fault Int
  | whole n => .ok n
  | real _ => .error .notBookable

@[simp] theorem add_whole (m n : Int) : add (whole m) (whole n) = .ok (whole (m + n)) := rfl

@[simp] theorem sub_whole (m n : Int) : sub (whole m) (whole n) = .ok (whole (m - n)) := rfl

@[simp] theorem mul_whole (m n : Int) : mul (whole m) (whole n) = .ok (whole (m * n)) := rfl

theorem floorDiv_whole (m : Int) {n : Int} (hn : 0 < n) :
    floorDiv (whole m) (whole n) = .ok (whole (m / n)) := by
  have h : n ≠ 0 := by omega
  simp [floorDiv, h, Int.fdiv_eq_ediv_of_nonneg _ (Int.le_of_lt hn)]

/-! ## Shares and quotients -/

def requireNonNegative (a : Quantity) : Except Fault Unit :=
  if a.lt (whole 0) then .error (.invalid (.negativeOperand a)) else .ok ()

/-- `a · unit / b`, a half up. -/
def divRounded (scale : Scale) (unit : Int) (a b : Quantity) : Except Fault Quantity := do
  a.requireNonNegative
  b.requireNonNegative
  if b.isZero then throw (.refused (.zeroDivisor scale))
  let scaled ← a.mul (whole unit)
  let half ← b.floorDiv (whole 2)
  (← scaled.add half).floorDiv b

def percentMul (value bps : Quantity) : Except Fault Quantity :=
  match value, bps with
  | whole m, whole n => (FixedPoint.percentMul m n).map whole
  | a, b => do
    a.requireNonNegative
    b.requireNonNegative
    if a.isZero || b.isZero then return whole 0
    (← (← a.mul b).add (whole FixedPoint.halfWhole)).floorDiv (whole FixedPoint.whole)

def percentDiv (value bps : Quantity) : Except Fault Quantity :=
  match value, bps with
  | whole m, whole n => (FixedPoint.percentDiv m n).map whole
  | a, b => divRounded .percent FixedPoint.whole a b

def wadDiv (a b : Quantity) : Except Fault Quantity :=
  match a, b with
  | whole m, whole n => (FixedPoint.wadDiv m n).map whole
  | a, b => divRounded .wad FixedPoint.wad a b

@[simp] theorem percentMul_whole (m n : Int) :
    percentMul (whole m) (whole n) = (FixedPoint.percentMul m n).map whole := rfl

@[simp] theorem percentDiv_whole (m n : Int) :
    percentDiv (whole m) (whole n) = (FixedPoint.percentDiv m n).map whole := rfl

@[simp] theorem wadDiv_whole (m n : Int) :
    wadDiv (whole m) (whole n) = (FixedPoint.wadDiv m n).map whole := rfl

end MoneyMarket.Quantity
