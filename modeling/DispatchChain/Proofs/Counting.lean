import DispatchChain.Odometer.Rank
import DispatchChain.Proofs.Bounding
/-!
# Counting — the positions of an odometer count the encodings that it has shown

Wheels stand at the digits of their rank in the bases of their fields' sizes (`Wheel.eq_digits`), and turning them
counts one up.  So an odometer that has shown some encodings stands at the digits of their number, and its countdown and
its flag tell the same number (`Odometer.Counts`).  This holds after each encoding that it shows
(`Odometer.Counts.advance`), and therefore of every odometer that a start leads to (`Odometer.Counts.take`).
-/
namespace DispatchChain

namespace Wheel

theorem span_pos (wheels : List Wheel) : 0 < span wheels := by
  rw [span_eq]
  exact product_pos Field.pos_of_mem_sizes

/-- The wheels of some fields at the digits of a number, each to the base of its field's size. -/
def digits (fields : List Field) (number : Nat) : List Wheel :=
  fields.mapIdx fun j field =>
    ⟨field, ⟨number / product ((fields.drop (j + 1)).map Field.size) % field.size, Nat.mod_lt _ field.size_pos⟩⟩

theorem digits_cons (field : Field) (fields : List Field) (number : Nat) :
    digits (field :: fields) number =
      ⟨field, ⟨number / product (fields.map Field.size) % field.size, Nat.mod_lt _ field.size_pos⟩⟩ ::
        digits fields number := by
  rw [digits, List.mapIdx_cons]
  rfl

theorem map_digits {α : Type} (f : Wheel → α) (fields : List Field) (number : Nat) :
    (digits fields number).map f = fields.mapIdx fun j field =>
      f ⟨field, ⟨number / product ((fields.drop (j + 1)).map Field.size) % field.size,
        Nat.mod_lt _ field.size_pos⟩⟩ := by
  refine List.ext_getElem? fun j => ?_
  rw [List.getElem?_map, digits, List.getElem?_mapIdx, List.getElem?_mapIdx, Option.map_map]
  rfl

/-- **Wheels stand at the digits of their rank**, and of what differs from it by whole rounds. -/
theorem eq_digits : ∀ (wheels : List Wheel) (rounds : Nat),
    wheels = digits (wheels.map field) (rounds * span wheels + rank wheels)
  | [], _ => rfl
  | wheel :: wheels, rounds => by
    -- The rounds of the later wheels are those of all wheels and the turns of this one.
    have number : rounds * span (wheel :: wheels) + rank (wheel :: wheels) =
        (rounds * wheel.field.size + wheel.position) * span wheels + rank wheels := by
      rw [rank, span_cons, Nat.add_mul, Nat.mul_assoc, Nat.add_assoc]
    have digit : ((rounds * wheel.field.size + wheel.position) * span wheels + rank wheels) / span wheels %
        wheel.field.size = wheel.position := by
      rw [Nat.mul_comm _ (span wheels), Nat.mul_add_div (span_pos wheels), Nat.div_eq_of_lt (rank_lt_span wheels),
        Nat.add_zero, Nat.mul_comm rounds, Nat.mul_add_mod, Nat.mod_eq_of_lt wheel.position.isLt]
    rw [number, List.map_cons, digits_cons]
    refine congrArg₂ _ ?_ (eq_digits wheels _)
    simp only [← span_eq, digit]

/-- Every field stands at its first value again after each round of all encodings. -/
theorem digits_rounds (fields : List Field) (rounds : Nat) :
    digits fields (rounds * product (fields.map Field.size)) = fields.map start := by
  have fresh : (fields.map start).map field = fields := (List.map_map (f := start)).trans (List.map_id' fields)
  have stand := eq_digits (fields.map start) rounds
  rw [span_eq, fresh, rank_start, Nat.add_zero] at stand
  exact stand.symm

end Wheel

namespace Odometer

open Enumerator

def positions (odometer : Odometer) : List Nat := odometer.wheels.map fun wheel => wheel.position.val

/-- An odometer has shown so many encodings of some fields: its wheels are theirs and stand at that number, or have come
round to the start, and its countdown tells how many are to come, if a word could hold how many there are. -/
structure Counts (fields : List Field) (shown : Nat) (odometer : Odometer) : Prop where
  of_fields : odometer.wheels.map Wheel.field = fields
  inside : shown ≤ product (fields.map Field.size)
  rank : Wheel.rank odometer.wheels + (if odometer.done then product (fields.map Field.size) else 0) = shown
  countdown : odometer.countdown = if product (fields.map Field.size) ≤ wordMax
    then some (product (fields.map Field.size) - shown) else none

variable {fields : List Field} {shown : Nat} {odometer : Odometer}

theorem next?_of_done (done : odometer.done) : Enumerator.next? odometer = none := if_pos done

theorem counts_start (fields : List Field) : Counts fields 0 (start fields) where
  of_fields := (List.map_map (f := Wheel.start)).trans (List.map_id' fields)
  inside := Nat.zero_le _
  rank := Wheel.rank_start fields
  countdown := by
    rw [Nat.sub_zero]
    split
    · rename_i fits
      exact wordProduct?_eq_some Field.pos_of_mem_sizes fits
    · rename_i beyond
      exact countdown_start fields (Nat.lt_of_not_le beyond)

namespace Counts

theorem span_eq (counts : Counts fields shown odometer) :
    Wheel.span odometer.wheels = product (fields.map Field.size) := by
  rw [Wheel.span_eq, counts.of_fields]

theorem done_iff (counts : Counts fields shown odometer) :
    odometer.done ↔ shown = product (fields.map Field.size) := by
  have inside := counts.inside
  have rank := counts.rank
  have below := Wheel.rank_lt_span odometer.wheels
  rw [counts.span_eq] at below
  by_cases done : odometer.done
  · rw [if_pos done] at rank
    exact iff_of_true done (by omega)
  · rw [if_neg done] at rank
    exact iff_of_false done (by omega)

theorem lt_of_not_done (counts : Counts fields shown odometer) (running : ¬ odometer.done) :
    shown < product (fields.map Field.size) :=
  Nat.lt_of_le_of_ne counts.inside (mt counts.done_iff.2 running)

/-- **An odometer stands at the digits of the number that it has shown**, also when it has come round. -/
theorem wheels_eq (counts : Counts fields shown odometer) : odometer.wheels = Wheel.digits fields shown := by
  -- Wheels that have come round stand at rank zero, one round short of the number that was shown.
  have digits := Wheel.eq_digits odometer.wheels (if odometer.done then 1 else 0)
  have number : (if odometer.done then 1 else 0) * Wheel.span odometer.wheels + Wheel.rank odometer.wheels = shown := by
    rw [counts.span_eq, ← counts.rank]
    split <;> omega
  rwa [number, counts.of_fields] at digits

/-- **Showing one more encoding counts one up and one down.** -/
theorem advance (counts : Counts fields shown odometer) (running : ¬ odometer.done) :
    Counts fields (shown + 1) odometer.advance where
  of_fields := (Wheel.map_field_turnAll odometer.wheels).trans counts.of_fields
  inside := counts.lt_of_not_done running
  rank := by
    have turned := Wheel.rank_turnAll odometer.wheels
    rw [counts.span_eq] at turned
    rw [← counts.rank, if_neg running, Nat.add_zero]
    exact turned
  countdown := by
    have down : odometer.advance.countdown = odometer.countdown.map (· - 1) := rfl
    rw [down, counts.countdown]
    split
    · rw [Option.map_some, Nat.sub_sub]
    · rfl

theorem next? (counts : Counts fields shown odometer) (more : shown < product (fields.map Field.size)) :
    Enumerator.next? odometer = some (odometer.encoding, odometer.advance) ∧
      Counts fields (shown + 1) odometer.advance := by
  have running : ¬ odometer.done := fun done => Nat.ne_of_lt more (counts.done_iff.1 done)
  exact ⟨if_neg running, counts.advance running⟩

/-- **Every encoding that is read is counted**, as long as there are enough. -/
theorem take : ∀ (m : Nat) {shown : Nat} {odometer : Odometer}, Counts fields shown odometer →
    shown + m ≤ product (fields.map Field.size) →
      (Enumerator.take m odometer).1.length = m ∧ Counts fields (shown + m) (Enumerator.take m odometer).2
  | 0, _, _, counts, _ => ⟨rfl, counts⟩
  | m + 1, shown, odometer, counts, enough => by
    obtain ⟨next, after⟩ := counts.next? (by omega)
    obtain ⟨length, later⟩ := after.take m (by omega)
    rw [Enumerator.take, next]
    rw [Nat.add_right_comm, Nat.add_assoc] at later
    exact ⟨congrArg (· + 1) length, later⟩

end Counts

end Odometer

end DispatchChain
