import DispatchChain.Odometer
/-!
# Family — instructions that share a templated handler

A family names its artifact, the fields of its encodings and the handler that every encoding
instantiates, one template argument per field.  `Family.declare` checks a declaration; what it
checked stays with the family.
-/
namespace DispatchChain

/-- The name of a file in a directory: not empty, not a step within paths, and free of separators. -/
def IsArtifactName (name : String) : Prop :=
  name ≠ "" ∧ name ≠ "." ∧ name ≠ ".." ∧ '/' ∉ name.toList ∧ '\\' ∉ name.toList

instance : DecidablePred IsArtifactName := fun name =>
  inferInstanceAs (Decidable
    (name ≠ "" ∧ name ≠ "." ∧ name ≠ ".." ∧ '/' ∉ name.toList ∧ '\\' ∉ name.toList))

@[ext] structure Family where
  /-- The file that receives the family's chain. -/
  artifact : String
  /-- The fields, in the order of the handler's template parameters. -/
  fields : List Field
  handler : String
  artifact_name : IsArtifactName artifact
  handler_identifier : IsIdentifier handler
  fields_distinct : (fields.map Field.name).Nodup
  count_fits : (wordProduct? (fields.map Field.size)).isSome

namespace Family

instance : DecidableEq Family := fun _ _ => decidable_of_iff _ Family.ext_iff.symm

/-- Declares a family.  The artifact's name is checked first, then the handler's, then that the
fields have distinct names, then that the encodings can be counted. -/
def declare (artifact : String) (fields : List Field) (handler : String) :
    Except DeclarationError Family :=
  if isName : IsArtifactName artifact then
    if isIdentifier : IsIdentifier handler then
      match distinct : firstRepeat (fields.map Field.name) with
      | some field => .error (.repeatedField artifact field)
      | none =>
        if fits : (wordProduct? (fields.map Field.size)).isSome then
          .ok ⟨artifact, fields, handler, isName, isIdentifier,
            (firstRepeat_eq_none_iff _).1 distinct, fits⟩
        else .error (.tooManyEncodings artifact)
    else .error (.notIdentifier handler)
  else .error (.badArtifactName artifact)

def count (family : Family) : Nat :=
  (wordProduct? (family.fields.map Field.size)).get family.count_fits

def odometer (family : Family) : Odometer := Odometer.start family.fields

/-- The family as it is shown: the handler and its fields, `arm_psr(psr:2, dir:2)`. -/
def text (family : Family) : String :=
  family.handler ++ "(" ++ ", ".intercalate (family.fields.map Field.text) ++ ")"

end Family

end DispatchChain
