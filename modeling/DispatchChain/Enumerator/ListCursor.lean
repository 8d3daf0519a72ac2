import DispatchChain.Enumerator
/-!
# ListCursor — a place in a list

The plainest enumerator: a list and a position in it.  An enumerator that lists the same items
answers as the cursor does.
-/
namespace DispatchChain

/-- A list and a position in it, at most its length. -/
structure ListCursor (α : Type) where
  items : List α
  position : Nat
deriving DecidableEq, Repr

namespace ListCursor

variable {α : Type}

def start (items : List α) : ListCursor α := ⟨items, 0⟩

def left (cursor : ListCursor α) : Nat := cursor.items.length - cursor.position

instance : Enumerator (ListCursor α) α where
  next? cursor := cursor.items[cursor.position]?.map fun item => (item, ⟨cursor.items, cursor.position + 1⟩)
  skip count cursor := ⟨cursor.items, min (cursor.position + count) cursor.items.length⟩
  left := left
  bounds cursor := .exactly cursor.left

end ListCursor

end DispatchChain
