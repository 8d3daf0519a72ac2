import DispatchChain.Family
/-!
# Declaration — fields and families as they are written down, before any check
-/
namespace DispatchChain

/-- A field as it is written down. -/
inductive FieldDeclaration
  | below (name : String) (bound : UInt32)
  | listed (name : String) (values : List UInt32)
deriving DecidableEq, Repr

def FieldDeclaration.declare : FieldDeclaration → Except DeclarationError Field
  | below name bound => Field.below name bound
  | listed name values => Field.listed name values

structure FamilyDeclaration where
  artifact : String
  fields : List FieldDeclaration
  handler : String
deriving DecidableEq, Repr

/-- Checks a family: first its fields in order, then the family itself. -/
def FamilyDeclaration.declare (declaration : FamilyDeclaration) : Except DeclarationError Family := do
  let fields ← declaration.fields.mapM FieldDeclaration.declare
  Family.declare declaration.artifact fields declaration.handler

end DispatchChain
