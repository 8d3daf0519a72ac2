import DispatchChain.Declaration
import DispatchChain.Text.Reading
/-!
# Signature — what a family's text tells

`Signature.read?` reads the text of a family back: its handler, and its fields as they were written
down.  The artifact is not part of the text.
-/
namespace DispatchChain

structure Signature where
  handler : String
  fields : List FieldDeclaration
deriving DecidableEq, Repr

/-- The declaration that makes a field. -/
def Field.declaration (field : Field) : FieldDeclaration :=
  match field.values with
  | .below bound => .below field.name bound
  | .listed values => .listed field.name values

def Family.signature (family : Family) : Signature := ⟨family.handler, family.fields.map Field.declaration⟩

namespace Signature

open Text

/-- Reads a field: a name, a colon, and a bound or the values in braces. -/
def readField (cs : List Char) : Option (FieldDeclaration × List Char) := do
  let (name, rest) ← readIdentifier cs
  let rest ← readLiteral [':'] rest
  match readLiteral ['\x7b'] rest with
  | none =>
    let (bound, rest) ← readWord rest
    return (.below name bound, rest)
  | some rest =>
    let (values, rest) ← readSeparated readWord [','] rest.length rest
    let rest ← readLiteral ['\x7d'] rest
    return (.listed name values, rest)

/-- Reads the fields up to the bracket that closes them, which is not read. -/
def readFields (cs : List Char) : Option (List FieldDeclaration × List Char) :=
  if cs.head? = some ')' then some ([], cs) else readSeparated readField ", ".toList cs.length cs

def read? (text : String) : Option Signature := do
  let (handler, rest) ← readIdentifier text.toList
  let rest ← readLiteral ['('] rest
  let (fields, rest) ← readFields rest
  let rest ← readLiteral [')'] rest
  if rest = [] then some ⟨handler, fields⟩ else none

example : read? "arm_mul(mulop:\x7b0,1,4\x7d, set_cond:2)" =
    some ⟨"arm_mul", [.listed "mulop" [0, 1, 4], .below "set_cond" 2]⟩ := by
  decide +kernel

end Signature

end DispatchChain
