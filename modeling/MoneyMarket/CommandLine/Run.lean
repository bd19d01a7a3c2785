import MoneyMarket.CommandLine.Arguments
import MoneyMarket.CommandLine.Path
import MoneyMarket.Json.Printer
import MoneyMarket.Json.Reader
import MoneyMarket.Params.Environment
import MoneyMarket.Scenario.Replay

/-!
# A run of the command line

A run reads the scenario that was asked for, replays it with the parameters of the environment and
prints the outcome. A refusal that ends the replay is told in one line, and the run counts as
failed. All other trouble ends the run without an answer.
-/

namespace MoneyMarket.CommandLine

inductive Trouble where
  | rejected (cause : Rejection)
  | noLogLevel
  | unreadable (cause : Unreadable)
  | notJson (cause : Json.ReadFailure)
  | parameters (cause : Fault)
  | scenario (cause : Scenario.Trouble)

def Trouble.message? : Trouble → Option String
  | unreadable cause => cause.message?
  | notJson (.tooLong digits) => (Scenario.Trouble.tooLong digits).message?
  | parameters cause => cause.message?
  | scenario cause => cause.message?
  | _ => none

structure Answer where
  exitCode : Nat
  printed : Option Json
  complaint : String

def refused (cause : Refusal) : Answer where
  exitCode := 1
  printed := none
  complaint := "error: " ++ cause.code ++ ": " ++ cause.message ++ "\n"

/-- The outcome with the reports that were asked for. Only a text can be asked for. -/
def Request.reported (r : Request) (o : Scenario.Output) : Scenario.Output :=
  match r.users with
  | none => o
  | some users => { o with accounts := o.accounts.filter fun a => (users.map .text).contains a.1 }

def fieldName : Name → String
  | .text s => s
  | name => name.toJson.printed

def Request.replay (r : Request) (params : PoolParams) (scenario : Json) :
    Scenario.Reading Json := do
  (r.reported (← Scenario.replay params scenario r.stopOnError)).printable fieldName

def Request.answer (r : Request) (env : Environment) (text : String) : Except Trouble Answer :=
  match Json.read text with
  | .error cause => .error (.notJson cause)
  | .ok scenario => match PoolParams.load {} env with
    | .error cause => .error (.parameters cause)
    | .ok params => match r.replay params scenario with
      | .ok printed => .ok ⟨0, some printed, ""⟩
      | .error (.fault (.refused cause)) => .ok (refused cause)
      | .error t => .error (.scenario t)

/-- A whole run, where `file` gives the text of a file. -/
def run (file : String → Except Unreadable String) (env : Environment) (args : List String) :
    Except Trouble Answer := do
  let r ← (request args).mapError .rejected
  if r.logLevel.isNone then throw .noLogLevel
  let text ← (file r.scenario).mapError .unreadable
  r.answer env text

end MoneyMarket.CommandLine
