import DispatchChain.Proofs.ToCome
import DispatchChain.Proofs.ValueSet
import DispatchChain.ValueSet.Cursor
/-!
# ValueCursor — the values of a set, read one at a time

A cursor has still to show the words of its span, or the rest of its list (`ValueSet.Cursor.lists_toCome`).  So what is
read from the cursor of a set are the set's values in order, and after the last one nothing for ever
(`ValueSet.converse_next`).
-/
namespace DispatchChain

namespace ValueSet

namespace Cursor

/-- The values that a cursor has still to show. -/
def toCome : Cursor → List UInt32
  | span next stop => (List.range' next (stop - next)).map UInt32.ofNat
  | rest values => values

theorem toCome_span_of_le {next stop : Nat} (ended : stop ≤ next) : toCome (span next stop) = [] := by
  rw [toCome, Nat.sub_eq_zero_of_le ended, List.range'_zero, List.map_nil]

theorem toCome_span_of_lt {next stop : Nat} (more : next < stop) :
    toCome (span next stop) = UInt32.ofNat next :: toCome (span (next + 1) stop) := by
  have one_more : stop - next = stop - (next + 1) + 1 := by omega
  rw [toCome, toCome, one_more, List.range'_succ, List.map_cons]

/-- **A cursor shows the values that it has to come, one at a time.** -/
theorem lists_toCome : Enumerator.Lists toCome where
  next?_of_nil {cursor} none_left := by
    cases cursor with
    | span next stop =>
      refine if_neg fun more => ?_
      rw [toCome_span_of_lt more] at none_left
      cases none_left
    | rest values =>
      obtain rfl : values = [] := none_left
      rfl
  next?_of_cons {cursor value values} some_left := by
    cases cursor with
    | span next stop =>
      by_cases more : next < stop
      · rw [toCome_span_of_lt more] at some_left
        obtain ⟨rfl, later⟩ := List.cons.inj some_left
        exact ⟨span (next + 1) stop, if_pos more, later⟩
      · rw [toCome_span_of_le (Nat.le_of_not_lt more)] at some_left
        cases some_left
    | rest _ =>
      obtain rfl : _ = value :: values := some_left
      exact ⟨rest values, rfl, rfl⟩

end Cursor

theorem toCome_cursor : ∀ set : ValueSet, set.cursor.toCome = set.toList
  | below bound => by
    rw [cursor, Cursor.toCome, Nat.sub_zero, ← List.range_eq_range']
    rfl
  | listed _ => rfl

/-- **Read one value after another, a set shows its values in order**, and then nothing. -/
theorem converse_next (set : ValueSet) (n : Nat) :
    Enumerator.converse set.cursor (List.replicate n .next) = (List.range n).map fun i => .item set.toList[i]? := by
  rw [← toCome_cursor]
  exact Cursor.lists_toCome.answerAll_next _ n _

/-- The values below a bound are the numbers below it, from zero on. -/
theorem map_toNat_toList_below (bound : UInt32) : (below bound).toList.map UInt32.toNat = List.range bound.toNat := by
  rw [toList, List.map_map]
  refine (List.map_congr_left fun n mem => ?_).trans (List.map_id _)
  have small : n < UInt32.size := Nat.lt_trans (List.mem_range.1 mem) bound.toNat_lt
  exact UInt32.toNat_ofNat_of_lt' small

end ValueSet

end DispatchChain
