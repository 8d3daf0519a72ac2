import DispatchChain.Field
import DispatchChain.WordCount
/-!
# Encoding — one value chosen for each field of a family

`Encoding.all` lists the encodings of some fields as nested loops would: the first field varies
slowest and the last one fastest.  It is the meaning of the odometer, which reaches the same
encodings one at a time.
-/
namespace DispatchChain

/-- One value for each field, as pairs of the field's name and the value, in field order. -/
structure Encoding where
  pairs : List (String × UInt32)
deriving DecidableEq, Repr

namespace Encoding

def size (encoding : Encoding) : Nat := encoding.pairs.length

def isEmpty (encoding : Encoding) : Bool := encoding.pairs.isEmpty

def values (encoding : Encoding) : List UInt32 := encoding.pairs.map Prod.snd

def cons (name : String) (value : UInt32) (encoding : Encoding) : Encoding :=
  ⟨(name, value) :: encoding.pairs⟩

/-- The pairs as the trace shows them: `[("link", 0), ("set_cond", 1)]`. -/
def text (encoding : Encoding) : String :=
  "[" ++ ", ".intercalate (encoding.pairs.map fun (name, value) =>
    "(\"" ++ name ++ "\", " ++ value.toNat.repr ++ ")") ++ "]"

/-- Every encoding of some fields: for each value of the first field, every encoding of the others.
Without fields there is one encoding, the empty one. -/
def all : List Field → List Encoding
  | [] => [⟨[]⟩]
  | field :: fields =>
    field.values.toList.flatMap fun value => (all fields).map (cons field.name value)

/-- **There are as many encodings as the product of the sizes.** -/
theorem length_all : ∀ fields : List Field, (all fields).length = product (fields.map Field.size)
  | [] => rfl
  | field :: fields => by
    rw [all, List.length_flatMap]
    simp only [List.length_map, length_all fields, List.map_const', List.sum_replicate_nat]
    rw [ValueSet.length_toList, List.map_cons, product, Field.size]

end Encoding

end DispatchChain
