import MoneyMarket.FixedPoint

/-!
# Interest over time

Factors by which a balance grows between two times, in ray, for a yearly rate in ray. Supply grows
linearly. Debt compounds by the second, by the first three terms of the binomial expansion of
`(1 + x) ^ n`, where `x` is the rate of one second.
-/

namespace MoneyMarket.Interest

open MoneyMarket.FixedPoint

def secondsPerYear : Int := 31536000

def elapsed (last now : Int) : Except Fault Int :=
  if now - last < 0 then .error (.invalid .updateInFuture) else .ok (now - last)

def linearAfter (rate n : Int) : Int := rate * n / secondsPerYear + ray

def linearFactor (rate last now : Int) : Except Fault Int := do
  requireNonNegative rate
  return linearAfter rate (← elapsed last now)

/-- The compounded factor after `n` seconds at `x` per second, from the powers of `x`. -/
def binomialAfter (x square cube n : Int) : Int :=
  let rest := if n > 2 then n - 2 else 0
  ray + x * n + n * (n - 1) * square / 2 + n * (n - 1) * rest * cube / 6

def compoundedFactor (rate last now : Int) : Except Fault Int := do
  requireNonNegative rate
  let n ← elapsed last now
  if n = 0 then return ray
  else
    let x := rate / secondsPerYear
    let square ← rayMul x x
    let cube ← rayMul square x
    return binomialAfter x square cube n

end MoneyMarket.Interest
