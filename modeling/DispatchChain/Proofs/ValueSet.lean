import DispatchChain.ValueSet
import Mathlib.Data.List.Nodup
/-!
# ValueSet — which values a set contains

The list of a set's values holds what the set contains (`ValueSet.mem_toList_iff`), each value once
if the set is lawful (`ValueSet.nodup_toList`).
-/
namespace DispatchChain

namespace ValueSet

/-- Whether a value is below the bound, or among the values listed. -/
def Contains (value : UInt32) : ValueSet → Prop
  | below bound => value < bound
  | listed values => value ∈ values

instance (value : UInt32) : DecidablePred (Contains value)
  | below bound => inferInstanceAs (Decidable (value < bound))
  | listed values => inferInstanceAs (Decidable (value ∈ values))

theorem mem_toList_iff (value : UInt32) : ∀ set : ValueSet, value ∈ set.toList ↔ set.Contains value
  | below bound => by
    rw [toList, List.mem_map, Contains, UInt32.lt_iff_toNat_lt]
    constructor
    · rintro ⟨n, mem, rfl⟩
      have inside : n < bound.toNat := List.mem_range.1 mem
      have small : n < UInt32.size := Nat.lt_trans inside bound.toNat_lt
      rwa [UInt32.toNat_ofNat_of_lt' small]
    · intro inside
      exact ⟨value.toNat, List.mem_range.2 inside, UInt32.ofNat_toNat⟩
  | listed _ => Iff.rfl

theorem nodup_toList : ∀ {set : ValueSet}, set.Lawful → set.toList.Nodup
  | below bound, _ => by
    refine List.Nodup.map_on (fun m hm n hn eq => ?_) List.nodup_range
    have small : ∀ k ∈ List.range bound.toNat, k < UInt32.size := fun k hk =>
      Nat.lt_trans (List.mem_range.1 hk) bound.toNat_lt
    have := congrArg UInt32.toNat eq
    rwa [UInt32.toNat_ofNat_of_lt' (small m hm), UInt32.toNat_ofNat_of_lt' (small n hn)] at this
  | listed _, lawful => lawful.2

theorem pairwise_idxOf_toList (set : ValueSet) (lawful : set.Lawful) :
    set.toList.Pairwise fun a b => set.toList.idxOf a < set.toList.idxOf b := by
  have nodup := nodup_toList lawful
  refine List.pairwise_iff_getElem.2 fun i j hi hj before => ?_
  rwa [nodup.idxOf_getElem, nodup.idxOf_getElem]

theorem toList_drop (set : ValueSet) (position : Fin set.size) :
    set.toList.drop position = set.get position :: set.toList.drop (position + 1) := by
  have inside : position.val < set.toList.length := by rw [length_toList]; exact position.isLt
  rw [List.drop_eq_getElem_cons inside]
  have := getElem?_toList set position
  rw [List.getElem?_eq_getElem inside] at this
  rw [Option.some.inj this]

end ValueSet

end DispatchChain
