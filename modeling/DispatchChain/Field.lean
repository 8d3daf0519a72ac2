import DispatchChain.DeclarationError
import DispatchChain.Identifier
import DispatchChain.Repetition
import DispatchChain.ValueSet
/-!
# Field — a bitfield of an instruction encoding

A field is bound to a variable by the decoder and takes the values of a set.  `Field.below` and
`Field.listed` check a declaration, and what they checked stays with the field: every field has an
identifier for its name and at least one value, and lists no value twice.
-/
namespace DispatchChain

/-- A named bitfield of an encoding, with the values it may take. -/
structure Field where
  /-- The variable that the decoder binds. -/
  name : String
  values : ValueSet
  name_identifier : IsIdentifier name
  values_lawful : values.Lawful
deriving DecidableEq

namespace Field

/-- Declares a field that takes every value below `bound`. -/
def below (name : String) (bound : UInt32) : Except DeclarationError Field :=
  if named : IsIdentifier name then
    if zero : bound = 0 then .error (.zeroBound name)
    else .ok ⟨name, .below bound, named, zero⟩
  else .error (.notIdentifier name)

/-- Declares a field that takes exactly `values`, in the order listed. -/
def listed (name : String) (values : List UInt32) : Except DeclarationError Field :=
  if named : IsIdentifier name then
    if empty : values = [] then .error (.noValues name)
    else match repeated : firstRepeat values with
      | some value => .error (.repeatedValue name value)
      | none => .ok ⟨name, .listed values, named, empty, (firstRepeat_eq_none_iff values).1 repeated⟩
  else .error (.notIdentifier name)

def size (field : Field) : Nat := field.values.size

/-- The field as signatures show it: `psr:2`, or `h:` and the values listed. -/
def text (field : Field) : String := field.name ++ ":" ++ field.values.text

theorem size_pos (field : Field) : 0 < field.size :=
  ValueSet.size_pos_of_lawful field.values_lawful

theorem pos_of_mem_sizes {fields : List Field} : ∀ size ∈ fields.map Field.size, 0 < size := by
  intro size mem
  obtain ⟨field, -, rfl⟩ := List.mem_map.1 mem
  exact field.size_pos

end Field

end DispatchChain
