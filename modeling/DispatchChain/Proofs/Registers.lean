import DispatchChain.Odometer.Registers
import DispatchChain.Proofs.Counting
import Mathlib.Data.List.Perm.Subperm
/-!
# Registers — words are as good as numbers

A value set has at most as many values as there are words to write them (`ValueSet.size_le`).  So a position fits a
value, and an index that counts up stays far from the end of its word; a countdown stops where the odometer does.  From
the start on, the registers of an odometer therefore go through what the odometer goes through, without a fault
(`Odometer.Counts.take_registers`).
-/
namespace DispatchChain

namespace ValueSet

/-- **A set has no more values than there are 32-bit words**, because it lists none twice. -/
theorem size_le : ∀ {set : ValueSet}, set.Lawful → set.size ≤ UInt32.size
  | below bound, _ => Nat.le_of_lt bound.toNat_lt
  | listed values, lawful => by
    have distinct : (values.map UInt32.toNat).Nodup := lawful.2.map fun _ _ => UInt32.toNat_inj.1
    have words : values.map UInt32.toNat ⊆ List.range UInt32.size := fun n mem => by
      obtain ⟨value, -, rfl⟩ := List.mem_map.1 mem
      exact List.mem_range.2 value.toNat_lt
    have fewer := (List.subperm_of_subset distinct words).length_le
    rwa [List.length_map, List.length_range] at fewer

/-- **At the index of a position a machine finds the value of that position.** -/
theorem fetch_ofNat : ∀ {set : ValueSet}, set.Lawful → ∀ position : Fin set.size,
    set.fetch (UInt64.ofNat position) = .ok (set.get position)
  | below bound, lawful, position => by
    have small : position.val < UInt32.size := Nat.lt_of_lt_of_le position.isLt (size_le lawful)
    rw [fetch, UInt64.toUInt32_ofNat', UInt32.toUInt64_ofNat' small, if_pos rfl, get]
  | listed values, lawful, position => by
    have small : position.val < UInt64.size :=
      Nat.lt_of_lt_of_le position.isLt (Nat.le_trans (size_le lawful) (by decide))
    have inside : position.val < values.length := position.isLt
    simp only [fetch, UInt64.toNat_ofNat_of_lt' small, List.getElem?_eq_getElem inside]
    rfl

end ValueSet

theorem Field.size_le (field : Field) : field.size ≤ UInt32.size := ValueSet.size_le field.values_lawful

/-- The multiply opcode, of whose eight values two are not assigned. -/
def Field.mulop : Field :=
  ⟨"mulop", .listed [0, 1, 4, 5, 6, 7], by decide +kernel,
    show [0, 1, 4, 5, 6, 7] ≠ [] ∧ [0, 1, 4, 5, 6, 7].Nodup by decide⟩

namespace Wheel

theorem next_position_le (wheel : Wheel) : wheel.position + 1 ≤ wordMax :=
  calc wheel.position + 1 ≤ wheel.field.size := wheel.position.isLt
    _ ≤ UInt32.size := wheel.field.size_le
    _ ≤ wordMax := by decide

theorem toNat_index (wheel : Wheel) : wheel.index.toNat = wheel.position :=
  UInt64.toNat_ofNat_of_lt' (Nat.lt_of_lt_of_le wheel.next_position_le (Nat.le_succ _))

end Wheel

namespace Registers

theorem ofNat_succ_ne_zero {n : Nat} (fits : n + 1 ≤ wordMax) : UInt64.ofNat (n + 1) ≠ 0 := fun zero => by
  have number := congrArg UInt64.toNat zero
  rw [UInt64.toNat_ofNat_of_lt' (Nat.lt_succ_of_le fits)] at number
  cases number

theorem countUp_ofNat {n : Nat} (fits : n + 1 ≤ wordMax) : countUp (UInt64.ofNat n) = .ok (UInt64.ofNat (n + 1)) := by
  have next : UInt64.ofNat n + 1 = UInt64.ofNat (n + 1) := by rw [UInt64.ofNat_add, UInt64.ofNat_one]
  rw [countUp, next, if_neg (ofNat_succ_ne_zero fits)]

theorem countDown_ofNat {n : Nat} (fits : n + 1 ≤ wordMax) :
    countDown (UInt64.ofNat (n + 1)) = .ok (UInt64.ofNat n) := by
  rw [countDown, if_neg (ofNat_succ_ne_zero fits), ← UInt64.ofNat_one, ← UInt64.ofNat_sub (Nat.le_add_left 1 n),
    Nat.add_sub_cancel]

/-- **Indices turn as wheels do**, and none of them overflows. -/
theorem turnAll_index : ∀ wheels : List Wheel, turnAll (wheels.map Wheel.field) (wheels.map Wheel.index) =
    .ok ((Wheel.turnAll wheels).1.map Wheel.index, (Wheel.turnAll wheels).2)
  | [] => rfl
  | wheel :: wheels => by
    have later := turnAll_index wheels
    have up : countUp wheel.index = .ok (UInt64.ofNat (wheel.position + 1)) := countUp_ofNat wheel.next_position_le
    have number : (UInt64.ofNat (wheel.position + 1)).toNat = wheel.position + 1 :=
      UInt64.toNat_ofNat_of_lt' (Nat.lt_succ_of_le wheel.next_position_le)
    rw [List.map_cons, List.map_cons, turnAll, later, Wheel.turnAll]
    cases h : Wheel.turnAll wheels with
    | mk turned carried =>
      cases carried with
      | false => rfl
      | true =>
        simp only [bind, Except.bind, if_true, up, number]
        by_cases inside : wheel.position + 1 < wheel.field.size
        · have turn : wheel.turn? = some ⟨wheel.field, ⟨_, inside⟩⟩ := dif_pos inside
          rw [if_pos inside, turn]
          rfl
        · have turn : wheel.turn? = none := dif_neg inside
          rw [if_neg inside, turn]
          rfl

theorem mapM_fetch : ∀ wheels : List Wheel,
    (((wheels.map Wheel.field).zip (wheels.map Wheel.index)).mapM fun (field, index) => do
      return (field.name, ← field.values.fetch index)) =
        Except.ok (wheels.map fun wheel => (wheel.field.name, wheel.value))
  | [] => rfl
  | wheel :: wheels => by
    have found : wheel.field.values.fetch wheel.index = .ok wheel.value :=
      ValueSet.fetch_ofNat wheel.field.values_lawful wheel.position
    rw [List.map_cons, List.map_cons, List.zip_cons_cons, List.mapM_cons, mapM_fetch wheels]
    simp only [found]
    rfl

end Registers

namespace Odometer

open Enumerator

variable {fields : List Field} {shown : Nat} {odometer : Odometer}

theorem registers_start (fields : List Field) : (start fields).registers = Registers.start fields := by
  simp [registers, start, Registers.start, Function.comp_def, Wheel.start, Wheel.index]

theorem encoding_registers (odometer : Odometer) : odometer.registers.encoding = .ok odometer.encoding := by
  rw [Registers.encoding, registers, Registers.mapM_fetch]
  rfl

theorem turnAll_registers (odometer : Odometer) :
    Registers.turnAll odometer.registers.fields odometer.registers.indices =
      .ok (odometer.advance.registers.indices, odometer.advance.done) :=
  Registers.turnAll_index odometer.wheels

theorem fields_advance (odometer : Odometer) : odometer.advance.registers.fields = odometer.registers.fields :=
  Wheel.map_field_turnAll odometer.wheels

theorem toNat_indices (odometer : Odometer) : odometer.registers.indices.map UInt64.toNat = odometer.positions := by
  rw [registers, positions, List.map_map]
  exact List.map_congr_left fun wheel _ => wheel.toNat_index

namespace Counts

theorem toNat_remaining (counts : Counts fields shown odometer) :
    odometer.registers.remaining.map UInt64.toNat = odometer.countdown := by
  rw [registers, counts.countdown]
  split
  · rename_i fits
    have small : product (fields.map Field.size) - shown < UInt64.size :=
      Nat.lt_succ_of_le (Nat.le_trans (Nat.sub_le ..) fits)
    simp only [Option.map_some, UInt64.toNat_ofNat_of_lt' small]
  · rfl

/-- **The countdown of an odometer that has more to show is no zero**, so a word counts down as it does. -/
theorem countDown_registers (counts : Counts fields shown odometer) (more : shown < product (fields.map Field.size)) :
    odometer.registers.remaining.mapM Registers.countDown = .ok odometer.advance.registers.remaining := by
  have down : odometer.advance.countdown = odometer.countdown.map (· - 1) := rfl
  rw [registers, registers, down, counts.countdown]
  split
  · rename_i fits
    obtain ⟨left, some_left⟩ : ∃ left, product (fields.map Field.size) - shown = left + 1 :=
      ⟨_, (Nat.sub_add_cancel (Nat.sub_pos_of_lt more)).symm⟩
    have counted := Registers.countDown_ofNat (n := left) (by omega)
    simp only [some_left, Option.map_some, Option.mapM_some, counted, Nat.add_sub_cancel]
    rfl
  · rfl

/-- **The next step of the registers is that of the odometer**, and no word fails. -/
theorem next?_registers (counts : Counts fields shown odometer) :
    odometer.registers.next? =
      .ok ((Enumerator.next? odometer).map fun (encoding, rest) => (encoding, rest.registers)) := by
  rw [Registers.next?, show odometer.registers.done = odometer.done from rfl]
  by_cases done : odometer.done
  · rw [next?_of_done done, if_pos done]
    rfl
  · have more := counts.lt_of_not_done done
    rw [(counts.next? more).1, if_neg done, encoding_registers, turnAll_registers, counts.countDown_registers more,
      ← fields_advance]
    rfl

/-- **The registers go through what the odometer goes through**, without a fault. -/
theorem take_registers : ∀ (m : Nat) {shown : Nat} {odometer : Odometer}, Counts fields shown odometer →
    Registers.take m odometer.registers =
      .ok ((Enumerator.take m odometer).1, (Enumerator.take m odometer).2.registers)
  | 0, _, _, _ => rfl
  | m + 1, shown, odometer, counts => by
    rw [Registers.take, counts.next?_registers, Enumerator.take]
    by_cases done : odometer.done
    · rw [next?_of_done done]
      rfl
    · obtain ⟨next, after⟩ := counts.next? (counts.lt_of_not_done done)
      have later := after.take_registers m
      rw [next]
      simp only [bind, Except.bind, Option.map_some, later]
      rfl

end Counts

/-- **An odometer stands at the digits of the number of encodings that it has shown.**  As many encodings as there are
can be read from the start.  After any number of them the wheel of each field stands at the digit of that number to the
base of the field's size, where a digit counts for as much as there are encodings of the later fields.  While more is
to come, the odometer shows for each field the value at that digit; after the last it has nothing more to show, and
every wheel stands at its start again.  The countdown tells what is to come, if a word holds the number of all.  A
machine that holds the odometer in words has the same numbers in them: it comes here without a fault, and takes the next
step without one. -/
theorem stands_at_digits (fields : List Field) {m : Nat} (enough : m ≤ product (fields.map Field.size)) :
    let count := product (fields.map Field.size)
    let digit (j : Nat) (field : Field) := m / product ((fields.drop (j + 1)).map Field.size) % field.size
    let shown := (Enumerator.take m (start fields)).1
    let here := (Enumerator.take m (start fields)).2
    shown.length = m ∧ here.positions = fields.mapIdx digit ∧
    (m < count → here.done = false ∧ Enumerator.next? here = some (here.encoding, here.advance) ∧
      here.encoding.pairs = fields.mapIdx fun j field =>
        (field.name, field.values.get ⟨digit j field, Nat.mod_lt _ field.size_pos⟩)) ∧
    (m = count → here.done = true ∧ Enumerator.next? here = none ∧ here.positions = fields.map fun _ => 0) ∧
    here.countdown = (if count ≤ wordMax then some (count - m) else none) ∧
    here.registers.indices.map UInt64.toNat = here.positions ∧
    here.registers.remaining.map UInt64.toNat = here.countdown ∧
    Registers.take m (.start fields) = .ok (shown, here.registers) ∧
    here.registers.next? = .ok ((Enumerator.next? here).map fun (encoding, rest) => (encoding, rest.registers)) := by
  intro count digit shown here
  obtain ⟨length, counts⟩ := (counts_start fields).take m (by rwa [Nat.zero_add])
  rw [Nat.zero_add] at counts
  have stand : here.wheels = Wheel.digits fields m := counts.wheels_eq
  refine ⟨length, ?_, fun more => ?_, fun all => ?_, counts.countdown, toNat_indices here, counts.toNat_remaining, ?_,
    counts.next?_registers⟩
  · rw [positions, stand, Wheel.map_digits]
  · refine ⟨?_, (counts.next? more).1, ?_⟩
    · rw [← Bool.not_eq_true, counts.done_iff]
      exact Nat.ne_of_lt more
    · rw [encoding, stand, Wheel.map_digits]
      rfl
  · have done : here.done := counts.done_iff.2 all
    refine ⟨done, next?_of_done done, ?_⟩
    have round := Wheel.digits_rounds fields 1
    rw [Nat.one_mul, ← show m = product (fields.map Field.size) from all] at round
    rw [positions, stand, round, List.map_map]
    rfl
  · rw [← registers_start]
    exact (counts_start fields).take_registers m

/-- Of more encodings than a word can count, the digits are those of the number also far beyond what one could read; and
two opcodes that have shown their last encoding stand at the first again. -/
theorem opcodes_stand_at_digits :
    let fields := Field.mulop :: quarters
    let far := 0x20000000000030005
    let opcodes := [Field.mulop, Field.mulop]
    (far ≤ product (fields.map Field.size) ∧
      (Enumerator.take far (start fields)).2.positions = [2, 0, 0, 3, 5] ∧
      (Enumerator.take far (start fields)).2.encoding.pairs =
        [("mulop", 4), ("quarter", 0), ("quarter", 0), ("quarter", 3), ("quarter", 5)] ∧
      (Enumerator.take far (start fields)).2.countdown = none) ∧
    36 ≤ product (opcodes.map Field.size) ∧ (Enumerator.take 36 (start opcodes)).2.done = true ∧
      (Enumerator.take 36 (start opcodes)).2.positions = [0, 0] ∧
      (Enumerator.take 36 (start opcodes)).2.countdown = some 0 := by
  intro fields far opcodes
  have enough : far ≤ product (fields.map Field.size) := by decide +kernel
  have all : 36 = product (opcodes.map Field.size) := by decide
  obtain ⟨-, positions, running, -, countdown, -⟩ := stands_at_digits fields enough
  obtain ⟨-, -, -, ended, down, -⟩ := stands_at_digits opcodes (Nat.le_of_eq all)
  obtain ⟨-, -, pairs⟩ := running (by decide +kernel)
  obtain ⟨done, -, first⟩ := ended all
  refine ⟨⟨enough, positions.trans ?_, pairs.trans ?_, countdown.trans ?_⟩, Nat.le_of_eq all, done, first,
    down.trans ?_⟩
  · decide +kernel
  · decide +kernel
  · decide +kernel
  · decide

end Odometer

end DispatchChain
