import MoneyMarket.Json.Printer
import MoneyMarket.Record
import MoneyMarket.Scenario.Operation

/-!
# Replaying a scenario

A scenario gives prices, reserves and operations. It is replayed on a new pool, in this order. An
operation that the market refuses is noted as a failure and the replay goes on, unless it is to stop
there. The outcome is the report on every account that was named, and what the pool published.
-/

namespace MoneyMarket.Scenario

structure Failure where
  index : Nat
  op : Json
  code : String

structure Replay where
  pool : Pool
  users : List Name := []
  failures : List Failure := []

/-! ## The parts of a scenario -/

def fieldsOf : Json → Reading Fields
  | .object fs => .ok fs
  | _ => .error .noParts

/-- The pool after an operation that has to succeed. -/
def perform (p : Pool) (op : Pool.Operation) : Reading Pool :=
  match p.perform op with
  | (p', .ok _) => .ok p'
  | (_, .error f) => .error (.fault f.worded)

def setPrices (p : Pool) (prices : Json) : Reading Pool := do
  (← fieldsOf prices).foldlM
    (fun p f => do perform p (.setPrice (.text f.1) (.whole (← toWad f.2)))) p

def listReserves (p : Pool) (reserves : Json) : Reading Pool := do
  (← items reserves).foldlM
    (fun p entry => do perform p (← listing p.params.governance entry)) p

/-! ## Operations -/

def noteUser (users : List Name) (user : Json) : Reading (List Name) := do
  let user ← name user
  return if users.any (·.key = user.key) then users else users ++ [user]

def noteUsers (users : List Name) (fs : Fields) : Reading (List Name) :=
  ["user", "borrower"].foldlM (fun users field =>
    match Entries.find? field fs with
    | some user => noteUser users user
    | none => .ok users) users

def attempt (p : Pool) (fs : Fields) : Pool × Reading Unit :=
  match operationOf p fs with
  | .error t => (p, .error t)
  | .ok op =>
    let (p', answer) := p.perform op
    (p', .ofFault (answer.map fun _ => ()))

/-- One operation; a refusal is noted, unless the replay stops at it. -/
def step (stopOnError : Bool) (r : Replay) (index : Nat) (entry : Json) : Reading Replay := do
  match entry with
  | .object fs =>
    let users ← noteUsers r.users fs
    match attempt r.pool fs with
    | (pool, .ok _) => return { r with pool, users }
    | (pool, .error (.fault (.refused cause))) =>
      if stopOnError then throw (.fault (.refused cause))
      else
        let failure := ⟨index, ← Fields.get fs "op", cause.code⟩
        return { pool, users, failures := r.failures ++ [failure] }
    | (_, .error t) => throw t
  | _ => throw .wrongKind

def steps (stopOnError : Bool) : Replay → Nat → List Json → Reading Replay
  | r, _, [] => .ok r
  | r, index, entry :: rest => do
    steps stopOnError (← step stopOnError r index entry) (index + 1) rest

/-! ## The outcome -/

structure Output where
  timestamp : Int
  accounts : List (Name × SolvencyReport)
  events : List PoolEvent
  settlement : List DebitInstruction
  failures : List Failure

def Replay.accounts (r : Replay) : Reading (List Name) :=
  match Name.sorted? r.users with
  | some users => .ok users
  | none => .error .wrongKind

def Replay.output (r : Replay) : Reading Output := do
  let accounts ← (← r.accounts).mapM fun (user : Name) => do
    return (user, ← .ofFault (r.pool.solvency user))
  return {
    timestamp := r.pool.clock
    accounts
    events := r.pool.events
    settlement := r.pool.settlement.instructions
    failures := r.failures }

def replay (params : PoolParams) (scenario : Json) (stopOnError : Bool) : Reading Output := do
  let fs ← fieldsOf scenario
  let pool ← setPrices { params } (fs.getOr "prices" (.object []))
  let pool ← listReserves pool (fs.getOr "reserves" (.list []))
  let done ← steps stopOnError { pool } 0 (← items (fs.getOr "operations" (.list [])))
  done.output

def Failure.record (f : Failure) : Json := .object [
  ("index", .whole f.index), ("op", f.op), ("error", .text f.code)]

def Output.record (fieldName : Name → String) (o : Output) : Json := .object [
  ("timestamp", .whole o.timestamp),
  ("accounts", .object (o.accounts.map fun a => (fieldName a.1, a.2.record))),
  ("events", .list (o.events.map PoolEvent.record)),
  ("settlement", .list (o.settlement.map DebitInstruction.record)),
  ("failures", .list (o.failures.map Failure.record))]

/-- The record, if all its figures can be written. -/
def Output.printable (fieldName : Name → String) (o : Output) : Reading Json :=
  let record := o.record fieldName
  if record.isTooLong then .error (.fault (.invalid .figureTooLong)) else .ok record

end MoneyMarket.Scenario
