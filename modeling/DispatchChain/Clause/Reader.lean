import DispatchChain.Clause
import DispatchChain.Text.Reading
/-!
# Reader — reading clauses and chains, and taking a branch

`Clause.read?` reads a clause from its written form, by the grammar of the output: a condition that
is `1` or tests joined by `&&`, then the handler and its arguments.  `Branch.readChain?` reads a
whole chain, line by line: an `if` that does nothing, and then a clause on each line.  What a chain
does is `Branch.taken?`: the first of its branches whose condition holds of the variables, where `0`
never holds.
-/
namespace DispatchChain

namespace Clause

open Text

/-- Reads a test: `link == 1`. -/
def readTest (cs : List Char) : Option ((String × UInt32) × List Char) := do
  let (name, rest) ← readIdentifier cs
  let rest ← readLiteral " == ".toList rest
  let (value, rest) ← readWord rest
  return ((name, value), rest)

/-- Reads a condition: no test for `1`, otherwise the tests that it joins. -/
def readCondition (cs : List Char) : Option (List (String × UInt32) × List Char) :=
  match readLiteral ['1'] cs with
  | some rest => some ([], rest)
  | none => readSeparated readTest " && ".toList cs.length cs

/-- Reads the arguments up to the angle bracket that closes them, which is not read. -/
def readArguments (cs : List Char) : Option (List UInt32 × List Char) :=
  if cs.head? = some '>' then some ([], cs) else readSeparated readWord [','] cs.length cs

/-- Reads a clause that is all of the text. -/
def read? (cs : List Char) : Option Clause := do
  let rest ← readLiteral "else if (".toList cs
  let (tests, rest) ← readCondition rest
  let rest ← readLiteral ") \x7breturn ".toList rest
  let (handler, rest) ← readIdentifier rest
  let rest ← readLiteral ['<'] rest
  let (arguments, rest) ← readArguments rest
  let rest ← readLiteral ">;\x7d".toList rest
  if rest = [] then some ⟨tests, handler, arguments⟩ else none

/-- Reads a clause from each line; nothing follows the end of the last line. -/
def readLines? : List (List Char) → Option (List Clause)
  | [] => none
  | [last] => if last = [] then some [] else none
  | line :: lines => do
    let clause ← read? line
    let clauses ← readLines? lines
    return clause :: clauses

def Holds (env : String → UInt32) (clause : Clause) : Prop :=
  ∀ test ∈ clause.tests, env test.1 = test.2

instance (env : String → UInt32) : DecidablePred (Holds env) := fun clause =>
  List.decidableBAll (fun test : String × UInt32 => env test.1 = test.2) clause.tests

example : read? "else if (a == 1 && b == 20) \x7breturn f<1,20>;\x7d".toList =
    some ⟨[("a", 1), ("b", 20)], "f", [1, 20]⟩ := by
  decide +kernel

example : read? "else if (1) \x7breturn f<>;\x7d".toList = some ⟨[], "f", []⟩ := by decide +kernel

end Clause

inductive Condition
  /-- The condition `0`. -/
  | never
  /-- All of some tests, which is the condition `1` if there are none. -/
  | all (tests : List (String × UInt32))
deriving DecidableEq, Repr

namespace Condition

open Text

def read? (cs : List Char) : Option (Condition × List Char) :=
  match readLiteral ['0'] cs with
  | some rest => some (never, rest)
  | none => (Clause.readCondition cs).map fun (tests, rest) => (all tests, rest)

def Holds (env : String → UInt32) : Condition → Prop
  | never => False
  | all tests => ∀ test ∈ tests, env test.1 = test.2

instance (env : String → UInt32) : DecidablePred (Holds env)
  | never => inferInstanceAs (Decidable False)
  | all tests => List.decidableBAll (fun test : String × UInt32 => env test.1 = test.2) tests

end Condition

inductive Branch
  /-- An `if` whose body is empty. -/
  | idle (condition : Condition)
  /-- A clause, which returns its handler. -/
  | returns (clause : Clause)
deriving DecidableEq, Repr

namespace Branch

open Text

/-- Reads an `if` that does nothing, and is all of the text. -/
def readIdle? (cs : List Char) : Option Branch := do
  let rest ← readLiteral "if (".toList cs
  let (condition, rest) ← Condition.read? rest
  let rest ← readLiteral ") \x7b\x7d".toList rest
  if rest = [] then some (idle condition) else none

/-- Reads a chain: an `if` that does nothing, and then a clause on each line. -/
def readChain? (chain : String) : Option (List Branch) :=
  match chain.toList.splitOn '\n' with
  | [] => none
  | first :: lines => do
    let opening ← readIdle? first
    let clauses ← Clause.readLines? lines
    return opening :: clauses.map returns

def Holds (env : String → UInt32) : Branch → Prop
  | idle condition => condition.Holds env
  | returns clause => clause.Holds env

instance (env : String → UInt32) : DecidablePred (Holds env)
  | idle condition => inferInstanceAs (Decidable (condition.Holds env))
  | returns clause => inferInstanceAs (Decidable (clause.Holds env))

/-- The branch of a chain that is taken: the first that holds. -/
def taken? (env : String → UInt32) (branches : List Branch) : Option Branch :=
  branches.find? (decide <| Holds env ·)

example : readIdle? "if (0) \x7b\x7d".toList = some (idle .never) ∧
    readIdle? "if (1) \x7b\x7d".toList = some (idle (.all [])) := by
  decide +kernel

end Branch

end DispatchChain
