import DispatchChain.Odometer.Rank
import DispatchChain.Proofs.ToCome
import DispatchChain.Proofs.ValueSet
import Mathlib.Data.List.Forall2
/-!
# NestedLoops — the odometer shows what nested loops list

Wheels that stand somewhere have still to show the encodings of the later wheels under the present
value, and then all of them under each later value (`Wheel.toCome`).  Turning the wheels takes the
first of these away (`Wheel.toCome_eq`), so an odometer that starts shows the whole list
`Encoding.all`, in order, and then nothing.  The list itself holds every choice of one value for each
field once, in the order of the values' positions.
-/
namespace DispatchChain

namespace Wheel

/-- The encoding at which wheels stand. -/
def standing (wheels : List Wheel) : Encoding := ⟨wheels.map fun wheel => (wheel.field.name, wheel.value)⟩

/-- The encodings that wheels have still to show, from the one at which they stand. -/
def toCome : List Wheel → List Encoding
  | [] => [⟨[]⟩]
  | wheel :: wheels =>
    (toCome wheels).map (.cons wheel.field.name wheel.value) ++
      (wheel.field.values.toList.drop (wheel.position + 1)).flatMap fun value =>
        (Encoding.all (wheels.map field)).map (.cons wheel.field.name value)

/-- **Wheels at their first values have every encoding to come.** -/
theorem toCome_start : ∀ fields : List Field, toCome (fields.map start) = Encoding.all fields
  | [] => rfl
  | field :: fields => by
    have fresh : (fields.map start).map Wheel.field = fields := by
      rw [List.map_map]; exact List.map_id' fields
    have whole := field.values.toList_drop ⟨0, field.size_pos⟩
    rw [List.drop_zero] at whole
    rw [List.map_cons, toCome, fresh, toCome_start fields, Encoding.all, whole, List.flatMap_cons]
    rfl

/-- **Turning the wheels takes the first encoding to come away**, and nothing is left when the first
wheel carries. -/
theorem toCome_eq : ∀ wheels : List Wheel,
    toCome wheels = standing wheels :: if (turnAll wheels).2 then [] else toCome (turnAll wheels).1
  | [] => rfl
  | wheel :: wheels => by
    have later := toCome_eq wheels
    have fields := map_field_turnAll wheels
    have round := turnAll_of_carried wheels
    rw [toCome, later, turnAll]
    cases h : turnAll wheels with
    | mk turned carried =>
      rw [h] at fields round
      cases carried with
      | false =>
        -- The later wheels still have something to show under the present value.
        simp only [Bool.false_eq_true, if_false, List.map_cons, toCome]
        rw [show turned.map field = wheels.map field from fields]
        rfl
      | true =>
        have started : turned = (wheels.map field).map start := round rfl
        simp only [if_true, List.map_cons, List.map_nil]
        by_cases inside : wheel.position + 1 < wheel.field.size
        · have turn : wheel.turn? = some ⟨wheel.field, ⟨_, inside⟩⟩ := dif_pos inside
          rw [turn, wheel.field.values.toList_drop ⟨_, inside⟩, List.flatMap_cons]
          simp only [Bool.false_eq_true, if_false, toCome]
          rw [started, toCome_start, List.map_map (f := start)]
          rw [show (Wheel.field ∘ start) = id from rfl, List.map_id]
          rfl
        · have turn : wheel.turn? = none := dif_neg inside
          have none_left : wheel.field.values.toList.drop (wheel.position + 1) = [] := by
            rw [List.drop_eq_nil_iff, ValueSet.length_toList]
            exact Nat.le_of_not_lt inside
          rw [turn, none_left]
          rfl

end Wheel

namespace Odometer

/-- The encodings that an odometer has still to show. -/
def toCome (odometer : Odometer) : List Encoding :=
  if odometer.done then [] else Wheel.toCome odometer.wheels

theorem toCome_start (fields : List Field) : (start fields).toCome = Encoding.all fields := by
  rw [toCome, start]
  exact Wheel.toCome_start fields

theorem toCome_eq_nil_iff (odometer : Odometer) : odometer.toCome = [] ↔ odometer.done := by
  rw [toCome]
  split
  · rename_i done; simp [done]
  · rename_i done; rw [Wheel.toCome_eq]; simp [done]

theorem toCome_of_not_done {odometer : Odometer} (more : ¬ odometer.done) :
    odometer.toCome = odometer.encoding :: odometer.advance.toCome := by
  rw [toCome, if_neg more, Wheel.toCome_eq]
  rfl

/-- **An odometer shows the encodings that it has to come, one at a time.** -/
theorem lists_toCome : Enumerator.Lists toCome where
  next?_of_nil none_left := if_pos ((toCome_eq_nil_iff _).1 none_left)
  next?_of_cons {odometer encoding encodings} some_left := by
    have more : ¬ odometer.done := fun done => by
      rw [(toCome_eq_nil_iff odometer).2 done] at some_left; cases some_left
    rw [toCome_of_not_done more] at some_left
    obtain ⟨first, rest⟩ := List.cons.inj some_left
    refine ⟨odometer.advance, ?_, rest⟩
    rw [← first]
    exact if_neg more

/-- **Asked for one encoding after another, an odometer shows those that the loops list**, and then nothing. -/
theorem converse_next (fields : List Field) (n : Nat) :
    Enumerator.converse (start fields) (List.replicate n .next) =
      (List.range n).map fun i => .item (Encoding.all fields)[i]? := by
  rw [← toCome_start fields]
  exact lists_toCome.answerAll_next _ n _

end Odometer

namespace Encoding

/-- An encoding of some fields: for each field in order, a pair of its name and one of its values. -/
def IsOf (fields : List Field) (encoding : Encoding) : Prop :=
  List.Forall₂ (fun field pair => pair.1 = field.name ∧ field.values.Contains pair.2) fields encoding.pairs

def positions (fields : List Field) (encoding : Encoding) : List Nat :=
  List.zipWith (fun field value => field.values.toList.idxOf value) fields encoding.values

theorem IsOf.map_fst : ∀ {fields : List Field} {encoding : Encoding}, encoding.IsOf fields →
    encoding.pairs.map Prod.fst = fields.map Field.name
  | _, ⟨_⟩, .nil => rfl
  | _, ⟨_⟩, .cons pair rest => by
    rw [List.map_cons, List.map_cons, pair.1]
    exact congrArg _ (@IsOf.map_fst _ ⟨_⟩ rest)

theorem isOf_cons_iff (field : Field) (fields : List Field) (encoding : Encoding) :
    encoding.IsOf (field :: fields) ↔
      ∃ value later, field.values.Contains value ∧ later.IsOf fields ∧ encoding = cons field.name value later := by
  obtain ⟨pairs⟩ := encoding
  rw [IsOf, List.forall₂_cons_left_iff]
  constructor
  · rintro ⟨⟨name, value⟩, pairs, ⟨rfl, inside⟩, rest, rfl⟩
    exact ⟨value, ⟨pairs⟩, inside, rest, rfl⟩
  · rintro ⟨value, ⟨pairs⟩, inside, rest, eq⟩
    exact ⟨(field.name, value), pairs, ⟨rfl, inside⟩, rest, congrArg Encoding.pairs eq⟩

/-- **The nested loops list exactly the encodings of the fields.** -/
theorem mem_all_iff : ∀ (fields : List Field) (encoding : Encoding), encoding ∈ all fields ↔ encoding.IsOf fields
  | [], ⟨pairs⟩ => by
    rw [all, List.mem_singleton, IsOf, List.forall₂_nil_left_iff]
    exact ⟨fun eq => congrArg Encoding.pairs eq, fun eq => congrArg Encoding.mk eq⟩
  | field :: fields, encoding => by
    simp only [all, List.mem_flatMap, List.mem_map, ValueSet.mem_toList_iff, mem_all_iff fields, isOf_cons_iff]
    constructor
    · rintro ⟨value, inside, later, isOf, rfl⟩
      exact ⟨value, later, inside, isOf, rfl⟩
    · rintro ⟨value, later, inside, isOf, rfl⟩
      exact ⟨value, inside, later, isOf, rfl⟩

/-- **The nested loops list encodings by the positions of their values**, the first field's counting most. -/
theorem pairwise_positions_all : ∀ fields : List Field,
    ((all fields).map (positions fields)).Pairwise (· < ·)
  | [] => List.pairwise_singleton _ _
  | field :: fields => by
    have ascending := field.values.pairwise_idxOf_toList field.values_lawful
    rw [all, List.map_flatMap, List.pairwise_flatMap]
    constructor
    · intro value _
      have later := pairwise_positions_all fields
      rw [List.pairwise_map] at later ⊢
      rw [List.pairwise_map]
      exact later.imp fun before => List.cons_lt_cons_iff.2 (.inr ⟨rfl, before⟩)
    · refine ascending.imp fun before => ?_
      simp only [List.map_map, List.mem_map, Function.comp_apply]
      rintro _ ⟨a, -, rfl⟩ _ ⟨b, -, rfl⟩
      exact List.cons_lt_cons_iff.2 (.inl before)

theorem nodup_all (fields : List Field) : (all fields).Nodup := by
  refine List.Nodup.of_map (positions fields) ?_
  refine (pairwise_positions_all fields).imp fun {a b} before => ?_
  rintro rfl
  exact List.lt_irrefl a before

end Encoding

/-- **The odometer is the nested loops.**  Asked for one encoding after another, it shows those that
the loops list, in their order, and after the last one nothing for ever.  The loops list each choice
of one value for every field, each once, by the positions of their values with the first field's
counting most, and as many as the product of the fields' sizes. -/
theorem Odometer.converse_next_eq_all (fields : List Field) :
    (∀ n, Enumerator.converse (Odometer.start fields) (List.replicate n .next) =
      (List.range n).map fun i => .item (Encoding.all fields)[i]?) ∧
    (∀ encoding, encoding ∈ Encoding.all fields ↔ encoding.IsOf fields) ∧
    (Encoding.all fields).Nodup ∧
    ((Encoding.all fields).map (Encoding.positions fields)).Pairwise (· < ·) ∧
    (Encoding.all fields).length = product (fields.map Field.size) := by
  exact ⟨Odometer.converse_next fields, Encoding.mem_all_iff fields, Encoding.nodup_all fields,
    Encoding.pairwise_positions_all fields, Encoding.length_all fields⟩

end DispatchChain
