/-!
# ValueSet — the values that a field may take

Values are 32-bit words.  A set holds either all values below a bound or exactly the values listed,
and it keeps their order: ascending, or as they were listed.
-/
namespace DispatchChain

/-- The values that a field may take, in their order. -/
inductive ValueSet
  /-- The values `0`, `1`, … below the bound. -/
  | below (bound : UInt32)
  /-- The values listed, for fields whose encodings are not all assigned. -/
  | listed (values : List UInt32)
deriving DecidableEq, Repr

namespace ValueSet

def size : ValueSet → Nat
  | below bound => bound.toNat
  | listed values => values.length

/-- A set that a field may range over: at least one value, and none listed twice. -/
def Lawful : ValueSet → Prop
  | below bound => bound ≠ 0
  | listed values => values ≠ [] ∧ values.Nodup

def get : (set : ValueSet) → Fin set.size → UInt32
  | below _, position => UInt32.ofNat position
  | listed values, position => List.get values position

def toList : ValueSet → List UInt32
  | below bound => (List.range bound.toNat).map UInt32.ofNat
  | listed values => values

/-- The set as signatures show it: the bound, or the values in braces. -/
def text : ValueSet → String
  | below bound => bound.toNat.repr
  | listed values => "\x7b" ++ ",".intercalate (values.map fun value => value.toNat.repr) ++ "\x7d"

theorem length_toList (set : ValueSet) : set.toList.length = set.size := by
  cases set <;> simp [toList, size]

/-- **A set lists its values by position.** -/
theorem getElem?_toList : ∀ (set : ValueSet) (position : Fin set.size),
    set.toList[position.val]? = some (set.get position)
  | below bound, position => by
    have inside : position.val < bound.toNat := position.isLt
    simp [toList, get, inside]
  | listed values, position => List.getElem?_eq_getElem position.isLt

theorem size_pos_of_lawful : ∀ {set : ValueSet}, set.Lawful → 0 < set.size
  | below bound, lawful => by
    have : bound.toNat ≠ 0 := fun zero => lawful (UInt32.toNat_inj.1 zero)
    simpa [size] using Nat.pos_of_ne_zero this
  | listed _, lawful => List.length_pos_iff.2 lawful.1

end ValueSet

end DispatchChain
