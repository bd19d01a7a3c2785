import MoneyMarket.Numeral.Whole

/-!
# The arguments of the command line

One scenario, and options anywhere around it. An option is called by its name or by a beginning of
it that no other name shares. After a lone `--` every word is plain; joined to an option it stands
for no value.
-/

namespace MoneyMarket.CommandLine

inductive Flag where
  | help | users | stopOnError | logLevel

def Flag.long : List (String × Flag) := [
  ("--help", .help), ("--users", .users), ("--stop-on-error", .stopOnError),
  ("--log-level", .logLevel)]

def logLevels : List String := ["DEBUG", "INFO", "WARNING", "ERROR"]

structure Request where
  scenario : String
  users : Option (List String)
  stopOnError : Bool
  /-- Missing when the option was given no value. -/
  logLevel : Option String

inductive Rejection where
  | helpWanted
  | misuse

/-! ## Words -/

inductive Word where
  | plain (text : String)
  | flag (flag : Flag) (value : Option String)
  | separator
  | unknown
  | ambiguous

/-- A word such as `-1` or `-.5`, which is no option. One line end may follow. -/
def isNegativeNumber (cs : List Char) : Bool :=
  let number := if cs.getLast? = some '\n' then cs.dropLast else cs
  match number with
  | '-' :: cs => match cs.dropWhile Numeral.isDigit with
    | [] => !cs.isEmpty
    | '.' :: fraction => !fraction.isEmpty && fraction.all Numeral.isDigit
    | _ => false
  | _ => false

def splitValue (cs : List Char) : String × Option String :=
  let name := String.ofList (cs.takeWhile (· ≠ '='))
  match cs.dropWhile (· ≠ '=') with
  | [] => (name, none)
  | _ :: value => (name, some (String.ofList value))

def longWord (cs : List Char) : Word :=
  let (name, value) := splitValue cs
  match Flag.long.lookup name with
  | some f => .flag f value
  | none => match Flag.long.filter fun entry => name.toList.isPrefixOf entry.1.toList with
    | [entry] => .flag entry.2 value
    | [] => if cs.contains ' ' then .plain (String.ofList cs) else .unknown
    | _ => .ambiguous

/-- The value that is joined to the short name `-h`, with or without an equals sign. The same letter
again is no value. -/
def joinedToShort (cs : List Char) : Option String :=
  let tail := match cs with
    | '=' :: rest => rest
    | _ => cs
  if cs = [] ∨ (tail ≠ [] ∧ tail.all (· = 'h')) then none else some (String.ofList tail)

def shortWord : List Char → Word
  | '-' :: 'h' :: cs => .flag .help (joinedToShort cs)
  | cs =>
    if isNegativeNumber cs || cs.contains ' ' then .plain (String.ofList cs) else .unknown

def wordOf (s : String) : Word :=
  match s.toList with
  | ['-'] => .plain s
  | ['-', '-'] => .separator
  | '-' :: '-' :: _ => longWord s.toList
  | '-' :: _ => shortWord s.toList
  | _ => .plain s

def wordsOf : List String → List Word
  | [] => []
  | s :: rest => match wordOf s with
    | .separator => .separator :: rest.map .plain
    | w => w :: wordsOf rest

/-! ## Reading the words -/

inductive Awaited where
  | scenario
  | users
  | logLevel
  /-- As `scenario`, right after the scenario itself, where a separator may stand. -/
  | separator

structure Draft where
  scenario : Option String := none
  users : Option (List String) := none
  stopOnError : Bool := false
  logLevel : Option String := some "WARNING"
  awaited : Awaited := .scenario
  leftover : Bool := false

namespace Draft

def withLevel (d : Draft) (level : String) : Except Rejection Draft :=
  if logLevels.contains level then .ok { d with logLevel := some level, awaited := .scenario }
  else .error .misuse

def plain (d : Draft) (s : String) : Except Rejection Draft :=
  match d.awaited with
  | .logLevel => d.withLevel s
  | .users => .ok { d with users := some (d.users.getD [] ++ [s]) }
  | _ => .ok (match d.scenario with
    | none => { d with scenario := some s, awaited := .separator }
    | some _ => { d with leftover := true, awaited := .scenario })

def flag (d : Draft) : Flag → Option String → Except Rejection Draft
  | .help, none => .error .helpWanted
  | .stopOnError, none => .ok { d with stopOnError := true, awaited := .scenario }
  | .users, none => .ok { d with users := some [], awaited := .users }
  | .users, some s =>
    .ok { d with users := some (if s = "--" then [] else [s]), awaited := .scenario }
  | .logLevel, none => .ok { d with awaited := .logLevel }
  | .logLevel, some "--" => .ok { d with logLevel := none, awaited := .scenario }
  | .logLevel, some s => d.withLevel s
  | _, some _ => .error .misuse

/-- A separator belongs to the scenario, before it or right after it. -/
def separator (d : Draft) : Draft :=
  match d.scenario, d.awaited with
  | none, _ => { d with awaited := .scenario }
  | some _, .separator => { d with awaited := .scenario }
  | some _, _ => { d with awaited := .scenario, leftover := true }

def word (d : Draft) (w : Word) : Except Rejection Draft :=
  match w, d.awaited with
  | .plain s, _ => d.plain s
  | _, .logLevel => .error .misuse
  | .flag f value, _ => d.flag f value
  | .separator, _ => .ok d.separator
  | .unknown, _ => .ok { d with leftover := true, awaited := .scenario }
  | .ambiguous, _ => .error .misuse

def finish (d : Draft) : Except Rejection Request :=
  match d.scenario, d.awaited, d.leftover with
  | _, .logLevel, _ => .error .misuse
  | some scenario, _, false =>
    .ok ⟨scenario, d.users, d.stopOnError, d.logLevel⟩
  | _, _, _ => .error .misuse

end Draft

def isAmbiguous : Word → Bool
  | .ambiguous => true
  | _ => false

def request (args : List String) : Except Rejection Request := do
  let words := wordsOf args
  if words.any isAmbiguous then throw .misuse
  (← words.foldlM Draft.word {}).finish

end MoneyMarket.CommandLine
