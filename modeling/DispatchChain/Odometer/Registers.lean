import DispatchChain.Odometer
/-!
# Registers — an odometer in machine words

A machine keeps the positions of an odometer and its countdown in 64-bit words, and values in 32-bit words.  What it
does with a word need not be what is meant by the number: a list may have no value at an index, an index may be too long
for a value, counting up may overflow, and counting down may stop at zero.  Here each of these is a fault, so that a run
without a fault is one in which the words were as good as numbers.
-/
namespace DispatchChain

/-- How an operation on words can fail to be the operation on numbers. -/
inductive WordFault
  /-- A list has no value at the index. -/
  | outside
  /-- The index is too long for a value. -/
  | truncated
  /-- Counting up came round to zero. -/
  | overflow
  /-- There was nothing left to count down. -/
  | saturated
deriving DecidableEq, Repr

/-- The value at an index: below a bound, the index itself, cut to the length of a value. -/
def ValueSet.fetch (index : UInt64) : ValueSet → Except WordFault UInt32
  | below _ => if index.toUInt32.toUInt64 = index then .ok index.toUInt32 else .error .truncated
  | listed values =>
    match values[index.toNat]? with
    | some value => .ok value
    | none => .error .outside

/-- The words in which a machine holds an odometer. -/
structure Registers where
  fields : List Field
  /-- For each field, the index at which it stands among its values. -/
  indices : List UInt64
  remaining : Option UInt64
  done : Bool
deriving DecidableEq

namespace Registers

/-- The registers before the first encoding. -/
def start (fields : List Field) : Registers :=
  ⟨fields, fields.map fun _ => 0, (wordProduct? (fields.map Field.size)).map UInt64.ofNat, false⟩

def countUp (word : UInt64) : Except WordFault UInt64 :=
  if word + 1 = 0 then .error .overflow else .ok (word + 1)

def countDown (word : UInt64) : Except WordFault UInt64 :=
  if word = 0 then .error .saturated else .ok (word - 1)

example : (ValueSet.below 7).fetch 0x100000000 = .error .truncated ∧ (ValueSet.listed [4]).fetch 1 = .error .outside ∧
    countUp 0xFFFFFFFFFFFFFFFF = .error .overflow ∧ countDown 0 = .error .saturated :=
  ⟨rfl, rfl, rfl, rfl⟩

/-- Counts the last index up, and those before it as far as needed; tells whether the first came round. -/
def turnAll : List Field → List UInt64 → Except WordFault (List UInt64 × Bool)
  | field :: fields, index :: indices => do
    let (indices, carried) ← turnAll fields indices
    if carried then
      let index ← countUp index
      return if index.toNat < field.size then (index :: indices, false) else (0 :: indices, true)
    else return (index :: indices, false)
  | _, _ => return ([], true)

def encoding (registers : Registers) : Except WordFault Encoding := do
  let pairs ← (registers.fields.zip registers.indices).mapM fun (field, index) => do
    return (field.name, ← field.values.fetch index)
  return ⟨pairs⟩

/-- The next encoding and the registers after it, unless a word fails. -/
def next? (registers : Registers) : Except WordFault (Option (Encoding × Registers)) := do
  if registers.done then return none
  let encoding ← registers.encoding
  let (indices, carried) ← turnAll registers.fields registers.indices
  let remaining ← registers.remaining.mapM countDown
  return some (encoding, ⟨registers.fields, indices, remaining, carried⟩)

/-- Reads so many encodings, or all that are left if there are fewer. -/
def take : Nat → Registers → Except WordFault (List Encoding × Registers)
  | 0, registers => return ([], registers)
  | n + 1, registers => do
    match ← registers.next? with
    | none => return ([], registers)
    | some (encoding, rest) =>
      let (encodings, rest) ← take n rest
      return (encoding :: encodings, rest)

end Registers

def Wheel.index (wheel : Wheel) : UInt64 := UInt64.ofNat wheel.position

namespace Odometer

def registers (odometer : Odometer) : Registers where
  fields := odometer.wheels.map Wheel.field
  indices := odometer.wheels.map Wheel.index
  remaining := odometer.countdown.map UInt64.ofNat
  done := odometer.done

end Odometer

end DispatchChain
