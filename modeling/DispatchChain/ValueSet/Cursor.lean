import DispatchChain.Enumerator
import DispatchChain.ValueSet
/-!
# Cursor — reading the values of a set one at a time

A cursor stands in a span of words still to come, or before the rest of a list.  It moves by
arithmetic, so a set of four thousand million values costs no more than a small one.
-/
namespace DispatchChain

namespace ValueSet

/-- The values of a set that are still to be read. -/
inductive Cursor
  /-- The words from `next` up to but not including `stop`. -/
  | span (next stop : Nat)
  | rest (values : List UInt32)
deriving DecidableEq, Repr

namespace Cursor

def next? : Cursor → Option (UInt32 × Cursor)
  | span next stop => if next < stop then some (UInt32.ofNat next, span (next + 1) stop) else none
  | rest [] => none
  | rest (value :: values) => some (value, rest values)

def skip (count : Nat) : Cursor → Cursor
  | span next stop => span (min (next + count) stop) stop
  | rest values => rest (values.drop count)

def left : Cursor → Nat
  | span next stop => stop - next
  | rest values => values.length

instance : Enumerator Cursor UInt32 where
  next? := next?
  skip := skip
  left := left
  bounds cursor := .exactly cursor.left

end Cursor

def cursor : ValueSet → Cursor
  | below bound => .span 0 bound.toNat
  | listed values => .rest values

end ValueSet

end DispatchChain
