import DispatchChain.Odometer
/-!
# Rank — an odometer counts up until its wheels have come round

Wheels count in the bases of their fields' sizes: turning them counts one up, and what the first wheel carries away is
the number of all encodings (`Wheel.rank_turnAll`).  So an odometer has one encoding less to come after each that it
shows (`Odometer.left_of_next?`), and whoever reads it to its end comes to one.
-/
namespace DispatchChain

namespace Wheel

theorem map_field_turnAll : ∀ wheels : List Wheel, (turnAll wheels).1.map field = wheels.map field
  | [] => rfl
  | wheel :: wheels => by
    have later := map_field_turnAll wheels
    rw [turnAll]
    cases h : turnAll wheels with
    | mk turned carried =>
      rw [h] at later
      cases carried with
      | false => simp only [List.map_cons]; rw [later]
      | true =>
        cases turn : wheel.turn? with
        | none => simp only [List.map_cons]; rw [later]; rfl
        | some next =>
          have same : next.field = wheel.field := by
            rw [turn?] at turn
            split at turn
            · cases turn; rfl
            · cases turn
          simp only [List.map_cons]; rw [later, same]

/-- Wheels that have all come round stand at their first values. -/
theorem turnAll_of_carried : ∀ wheels : List Wheel, (turnAll wheels).2 = true →
    (turnAll wheels).1 = (wheels.map field).map start
  | [], _ => rfl
  | wheel :: wheels, carried => by
    rw [turnAll] at carried ⊢
    cases h : turnAll wheels with
    | mk turned carriedLater =>
      have later := turnAll_of_carried wheels
      rw [h] at carried later
      cases carriedLater with
      | false => cases carried
      | true =>
        cases turn : wheel.turn? with
        | some next => rw [turn] at carried; cases carried
        | none => exact congrArg (start wheel.field :: ·) (later rfl)

theorem span_eq (wheels : List Wheel) : span wheels = product ((wheels.map field).map Field.size) := by
  rw [span, List.map_map]
  rfl

theorem span_cons (wheel : Wheel) (wheels : List Wheel) : span (wheel :: wheels) = wheel.field.size * span wheels := rfl

theorem rank_start : ∀ fields : List Field, rank (fields.map start) = 0
  | [] => rfl
  | field :: fields => by
    rw [List.map_cons, rank, rank_start fields]
    simp [start]

/-- **Turning the wheels counts one up**, less the number of all encodings when the first wheel carries. -/
theorem rank_turnAll : ∀ wheels : List Wheel,
    rank (turnAll wheels).1 + (if (turnAll wheels).2 then span wheels else 0) = rank wheels + 1
  | [] => rfl
  | wheel :: wheels => by
    have later := rank_turnAll wheels
    have fields := map_field_turnAll wheels
    have round := turnAll_of_carried wheels
    rw [turnAll]
    cases h : turnAll wheels with
    | mk turned carried =>
      rw [h] at later fields round
      have same_span : span turned = span wheels := by
        rw [span_eq, span_eq, show turned.map field = wheels.map field from fields]
      cases carried with
      | false =>
        simp only [Bool.false_eq_true, if_false, rank, same_span] at later ⊢
        omega
      | true =>
        -- The later wheels have counted a whole span, which is what one turn of this wheel counts for.
        have started : rank turned = 0 := by
          rw [show turned = (wheels.map field).map start from round rfl, rank_start]
        simp only [if_true, started, Nat.zero_add] at later
        by_cases inside : wheel.position + 1 < wheel.field.size
        · have turn : wheel.turn? = some ⟨wheel.field, ⟨_, inside⟩⟩ := dif_pos inside
          simp only [turn, Bool.false_eq_true, if_false, rank, started, same_span, Nat.add_mul]
          omega
        · have turn : wheel.turn? = none := dif_neg inside
          have last : wheel.field.size = wheel.position + 1 :=
            Nat.le_antisymm (Nat.le_of_not_lt inside) wheel.position.isLt
          simp only [turn, if_true, rank, start, started, span_cons, last, Nat.add_mul]
          omega

theorem rank_lt_span : ∀ wheels : List Wheel, rank wheels < span wheels
  | [] => Nat.one_pos
  | wheel :: wheels => by
    have later := rank_lt_span wheels
    calc rank (wheel :: wheels)
        < wheel.position * span wheels + span wheels := by rw [rank]; omega
      _ = (wheel.position + 1) * span wheels := by rw [Nat.add_mul, Nat.one_mul]
      _ ≤ span (wheel :: wheels) := Nat.mul_le_mul_right _ wheel.position.isLt

end Wheel

namespace Odometer

variable {odometer rest : Odometer} {encoding : Encoding}

/-- **After each encoding that is shown there is one less to come.** -/
theorem left_of_next? (next : odometer.next? = some (encoding, rest)) : rest.left + 1 = odometer.left := by
  unfold next? at next
  split at next
  · cases next
  · rename_i running
    cases next
    have turned := Wheel.rank_turnAll odometer.wheels
    have below := Wheel.rank_lt_span odometer.wheels
    have below' := Wheel.rank_lt_span (Wheel.turnAll odometer.wheels).1
    have same_span : Wheel.span (Wheel.turnAll odometer.wheels).1 = Wheel.span odometer.wheels := by
      rw [Wheel.span_eq, Wheel.span_eq, Wheel.map_field_turnAll]
    unfold left advance
    simp only [running, Bool.false_eq_true, if_false]
    split <;> simp_all <;> omega

end Odometer

end DispatchChain
