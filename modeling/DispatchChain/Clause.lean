import DispatchChain.Encoding
/-!
# Clause — the dispatch of one encoding

A chain opens with a statement that is never taken, so that every clause can begin with `else if`.
A clause tests the fields of an encoding against its values and returns the handler instantiated
with the same values.  `Clause.text` is its written form.
-/
namespace DispatchChain

structure Clause where
  /-- The variables tested for equality, with the values they must have. -/
  tests : List (String × UInt32)
  handler : String
  arguments : List UInt32
deriving DecidableEq, Repr

namespace Clause

/-- The clause that dispatches an encoding to a handler: it tests and passes on the same values. -/
def ofEncoding (handler : String) (encoding : Encoding) : Clause :=
  ⟨encoding.pairs, handler, encoding.values⟩

/-- A test as it is written: `link == 1`. -/
def testText (test : String × UInt32) : String := test.1 ++ " == " ++ test.2.toNat.repr

/-- The condition as it is written: the tests joined by `&&`, or `1` if there are none. -/
def condition (clause : Clause) : String :=
  if clause.tests = [] then "1" else " && ".intercalate (clause.tests.map testText)

def argumentText (clause : Clause) : String :=
  ",".intercalate (clause.arguments.map fun value => value.toNat.repr)

def text (clause : Clause) : String :=
  "else if (" ++ clause.condition ++ ") \x7breturn " ++ clause.handler ++ "<" ++ clause.argumentText ++ ">;\x7d"

/-- The statement that opens every chain and is never taken. -/
def opening : String := "if (0) \x7b\x7d"

end Clause

end DispatchChain
