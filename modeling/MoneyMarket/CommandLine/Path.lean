import MoneyMarket.Text.Points

/-!
# Paths

What a path tells by itself, before any file is looked for.
-/

namespace MoneyMarket.CommandLine

inductive Unreadable where
  | missing
  | directory
  | tooLong
  | nullCharacter
  /-- A surrogate that stands for no byte is in the path. -/
  | unencodable
  deriving DecidableEq, Repr

def Unreadable.message? : Unreadable → Option String
  | nullCharacter => some "embedded null byte"
  | _ => none

/-- A surrogate, unless it is one of those that stand for the bytes beyond ASCII. -/
def isUnencodable (point : Nat) : Bool :=
  Text.isSurrogate point && !(0xdc80 ≤ point && point < 0xdd00)

def maxNameLength : Nat := 255

def maxPathLength : Nat := 4095

/-- The names of a path that lead away from where one is or from the root. -/
def properNames (path : String) : List String :=
  (path.splitOn "/").filter fun name => name ≠ "" ∧ name ≠ "." ∧ name ≠ ".."

def pathFault? (path : String) : Option Unreadable :=
  if (Text.points path).any isUnencodable then some .unencodable
  else if path.toList.contains '\x00' then some .nullCharacter
  else if maxPathLength < path.utf8ByteSize then some .tooLong
  else match properNames path with
    | [] => some .directory
    | name :: _ => if maxNameLength < name.utf8ByteSize then some .tooLong else none

end MoneyMarket.CommandLine
