import MoneyMarket.Fault

/-!
# Work in stages

A change of state is a list of stages, each of which may fail. `perform` gives the final state or
the first fault. `advance` also tells how far the work got: a failed stage leaves the state that
the stages before it made.
-/

namespace MoneyMarket

abbrev Stage (σ : Type) := σ → Except Fault σ

/-- The state that was reached, and the fault that stopped the work there, if any. -/
structure Progress (σ : Type) where
  state : σ
  fault : Option Fault := none

namespace Progress

variable {σ τ : Type}

def toExcept (p : Progress σ) : Except Fault σ :=
  match p.fault with
  | none => .ok p.state
  | some f => .error f

def map (f : σ → τ) (p : Progress σ) : Progress τ := ⟨f p.state, p.fault⟩

theorem toExcept_map (f : σ → τ) (p : Progress σ) :
    (p.map f).toExcept = f <$> p.toExcept := by
  obtain ⟨s, _ | e⟩ := p <;> rfl

end Progress

namespace Stage

variable {σ : Type}

def perform : List (Stage σ) → Stage σ
  | [], s => .ok s
  | stage :: rest, s => stage s >>= perform rest

def advance : List (Stage σ) → σ → Progress σ
  | [], s => ⟨s, none⟩
  | stage :: rest, s =>
    match stage s with
    | .ok s' => advance rest s'
    | .error f => ⟨s, some f⟩

@[simp] theorem perform_nil (s : σ) : perform [] s = .ok s := rfl

@[simp] theorem perform_cons (stage : Stage σ) (rest : List (Stage σ)) (s : σ) :
    perform (stage :: rest) s = stage s >>= perform rest := rfl

theorem toExcept_advance (stages : List (Stage σ)) (s : σ) :
    (advance stages s).toExcept = perform stages s := by
  induction stages generalizing s with
  | nil => rfl
  | cons stage rest ih =>
    simp only [advance, perform_cons]
    cases h : stage s with
    | ok s' => exact ih s'
    | error f => rfl

end Stage

end MoneyMarket
