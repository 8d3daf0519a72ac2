import DispatchChain.Encoding
import DispatchChain.Enumerator
/-!
# Odometer — the encodings of some fields, one at a time

An odometer has a wheel for each field, standing at a position among the field's values.  The last
wheel turns first; a wheel that has come round carries into the wheel before it, and when the first
wheel carries, every encoding has been shown.  Beside the wheels runs a countdown of the encodings
to come, as long as a machine word could hold their number at the start.
-/
namespace DispatchChain

/-- A field, standing at one of its values. -/
structure Wheel where
  field : Field
  position : Fin field.size

namespace Wheel

def start (field : Field) : Wheel := ⟨field, ⟨0, field.size_pos⟩⟩

def value (wheel : Wheel) : UInt32 := wheel.field.values.get wheel.position

/-- The wheel at its next position, unless it stands at its last. -/
def turn? (wheel : Wheel) : Option Wheel :=
  if inside : wheel.position + 1 < wheel.field.size then some ⟨wheel.field, ⟨_, inside⟩⟩ else none

/-- Turns the last wheel, carrying as far as needed; tells whether the first wheel carried. -/
def turnAll : List Wheel → List Wheel × Bool
  | [] => ([], true)
  | wheel :: wheels =>
    match turnAll wheels with
    | (wheels, false) => (wheel :: wheels, false)
    | (wheels, true) =>
      match wheel.turn? with
      | some wheel => (wheel :: wheels, false)
      | none => (start wheel.field :: wheels, true)

def span (wheels : List Wheel) : Nat := product (wheels.map fun wheel => wheel.field.size)

/-- The number of encodings before the one at which some wheels stand: their positions are the
digits of it, each to the base of its field's size. -/
def rank : List Wheel → Nat
  | [] => 0
  | wheel :: wheels => wheel.position * span wheels + rank wheels

end Wheel

/-- A place among the encodings of some fields. -/
structure Odometer where
  /-- One wheel for each field, in field order. -/
  wheels : List Wheel
  /-- The number of encodings to come, if their number fitted a word at the start. -/
  countdown : Option Nat
  done : Bool

namespace Odometer

/-- The odometer before the first encoding.  Fields may share names here. -/
def start (fields : List Field) : Odometer :=
  ⟨fields.map Wheel.start, wordProduct? (fields.map Field.size), false⟩

def encoding (odometer : Odometer) : Encoding :=
  ⟨odometer.wheels.map fun wheel => (wheel.field.name, wheel.value)⟩

def advance (odometer : Odometer) : Odometer :=
  let (wheels, carried) := Wheel.turnAll odometer.wheels
  ⟨wheels, odometer.countdown.map (· - 1), carried⟩

def next? (odometer : Odometer) : Option (Encoding × Odometer) :=
  if odometer.done then none else some (odometer.encoding, odometer.advance)

/-- The odometer after so many more encodings, or after the last. -/
def skip : Nat → Odometer → Odometer
  | 0, odometer => odometer
  | count + 1, odometer => if odometer.done then odometer else skip count odometer.advance

def left (odometer : Odometer) : Nat :=
  if odometer.done then 0 else Wheel.span odometer.wheels - Wheel.rank odometer.wheels

/-- Exact while there is a countdown.  Without one there are said to be at least as many encodings
as a word can count, up to the last. -/
def bounds (odometer : Odometer) : CountBounds :=
  if odometer.done then .exactly 0
  else match odometer.countdown with
    | some count => .exactly count
    | none => ⟨wordMax, none⟩

instance : Enumerator Odometer Encoding where
  next? := next?
  skip := skip
  left := left
  bounds := bounds

end Odometer

end DispatchChain
