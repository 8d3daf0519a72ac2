/-!
# Enumerator — items that are read one at a time

An enumerator stands somewhere in a sequence of items.  It can be read (`next?`), moved on (`skip`),
and asked how much is left: exactly (`left`), or as far as its machine words can tell (`bounds`).  A
reader holds a conversation with it, a list of requests that are answered one by one; the requests
may also keep a place and return to it.
-/
namespace DispatchChain

/-- Bounds for the number of items to come: at least `low`, and at most `high` if that is known. -/
structure CountBounds where
  low : Nat
  high : Option Nat
deriving DecidableEq, Repr

def CountBounds.exactly (count : Nat) : CountBounds := ⟨count, some count⟩

/-- States `σ` from which items of type `α` are read one at a time. -/
class Enumerator (σ : Type) (α : outParam Type) where
  /-- The next item and the state after it, or nothing at the end. -/
  next? : σ → Option (α × σ)
  /-- Passes over so many items, or over all that are left if there are fewer. -/
  skip : Nat → σ → σ
  left : σ → Nat
  /-- What the state tells about the number of items left. -/
  bounds : σ → CountBounds

namespace Enumerator

variable {σ α : Type} [Enumerator σ α]

/-- The next item, if any, and the state after it; the end is never left. -/
def read (s : σ) : Option α × σ :=
  match next? s with
  | some (a, rest) => (some a, rest)
  | none => (none, s)

/-- Reads so many items, or all that are left if there are fewer. -/
def take : Nat → σ → List α × σ
  | 0, s => ([], s)
  | n + 1, s =>
    match next? s with
    | none => ([], s)
    | some (a, rest) => let (items, rest) := take n rest; (a :: items, rest)

/-- What a reader may ask of an enumerator. -/
inductive Request
  | next
  /-- The item after so many others, which are passed over. -/
  | nth (skipped : Nat)
  | take (count : Nat)
  | bounds
  | left
  /-- Passes over all that is left and counts it. -/
  | count
  | save
  /-- Returns to the place kept last, or to the start. -/
  | restore
deriving DecidableEq, Repr

inductive Reply (α : Type)
  | item (item : Option α)
  | items (items : List α)
  | bounds (bounds : CountBounds)
  | number (number : Nat)
  | saved
  | restored
deriving DecidableEq, Repr

/-- A reader's place in a sequence, and the place it has kept. -/
structure Reading (σ : Type) where
  here : σ
  kept : σ
deriving DecidableEq, Repr

def Reading.start (s : σ) : Reading σ := ⟨s, s⟩

def answer (reading : Reading σ) : Request → Reply α × Reading σ
  | .next =>
    let (item, here) := read reading.here
    (.item item, { reading with here })
  | .nth skipped =>
    let (item, here) := read (skip skipped reading.here)
    (.item item, { reading with here })
  | .take count =>
    let (items, here) := take count reading.here
    (.items items, { reading with here })
  | .bounds => (.bounds (bounds reading.here), reading)
  | .left => (.number (left reading.here), reading)
  | .count =>
    let count := left reading.here
    (.number count, { reading with here := skip count reading.here })
  | .save => (.saved, { reading with kept := reading.here })
  | .restore => (.restored, { reading with here := reading.kept })

def answerAll : Reading σ → List Request → List (Reply α)
  | _, [] => []
  | reading, request :: requests =>
    let (reply, reading) := answer reading request
    reply :: answerAll reading requests

def converse (s : σ) (requests : List Request) : List (Reply α) :=
  answerAll (Reading.start s) requests

end Enumerator

end DispatchChain
