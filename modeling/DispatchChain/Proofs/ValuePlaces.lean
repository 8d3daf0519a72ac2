import DispatchChain.Proofs.Declaring
import DispatchChain.Proofs.Registers
import DispatchChain.Proofs.ValueCursor
/-!
# ValuePlaces — the values of a field, read on and looked up

The values of a set can be read on from a cursor or looked up by position, and these are independent.  A cursor at a
place (`ValueSet.cursorAt`) moves as the place does: the next value is the one that is looked up there
(`ValueSet.next?_cursorAt`), passing over values adds to the place (`ValueSet.skip_cursorAt`), and the values left are
those from the place on.  So a reader cannot tell a cursor from a place in the list of the values that are looked up
(`Field.cursor_is_place`).
-/
namespace DispatchChain

namespace ValueSet

open Enumerator

/-- The values of a set, looked up at each position. -/
def lookedUp (set : ValueSet) : List UInt32 := List.ofFn set.get

/-- The cursor of a set at a place among its values. -/
def cursorAt : ValueSet → Nat → Cursor
  | below bound, place => .span place bound.toNat
  | listed values, place => .rest (values.drop place)

variable {set : ValueSet} {place : Nat}

@[simp] theorem length_lookedUp (set : ValueSet) : set.lookedUp.length = set.size := List.length_ofFn

/-- **What is looked up is what is listed.** -/
theorem lookedUp_eq_toList (set : ValueSet) : set.lookedUp = set.toList := by
  refine List.ext_getElem? fun place => ?_
  rw [lookedUp, List.getElem?_ofFn]
  split
  · rename_i inside
    exact (set.getElem?_toList ⟨place, inside⟩).symm
  · rename_i outside
    exact (List.getElem?_eq_none (by rw [length_toList]; exact Nat.le_of_not_lt outside)).symm

theorem cursorAt_zero : ∀ set : ValueSet, set.cursorAt 0 = set.cursor
  | below _ => rfl
  | listed _ => rfl

/-- **The next value of a cursor is the one looked up at its place.** -/
theorem next?_cursorAt : ∀ (set : ValueSet) (place : Nat),
    next? (set.cursorAt place) = set.lookedUp[place]?.map fun value => (value, set.cursorAt (place + 1))
  | below bound, place => by
    rw [lookedUp_eq_toList, toList, List.getElem?_map]
    by_cases more : place < bound.toNat
    · rw [List.getElem?_range more]
      exact if_pos more
    · rw [List.getElem?_eq_none (by rw [List.length_range]; exact Nat.le_of_not_lt more)]
      exact if_neg more
  | listed values, place => by
    rw [lookedUp_eq_toList, toList]
    by_cases more : place < values.length
    · rw [List.getElem?_eq_getElem more, cursorAt, List.drop_eq_getElem_cons more]
      rfl
    · have ended : values.length ≤ place := Nat.le_of_not_lt more
      rw [List.getElem?_eq_none ended, cursorAt, List.drop_eq_nil_of_le ended]
      rfl

/-- **Passing over values moves the place by their number**, or to the end. -/
theorem skip_cursorAt (count : Nat) : ∀ (set : ValueSet) (place : Nat),
    skip count (set.cursorAt place) = set.cursorAt (min (place + count) set.size)
  | below bound, place => rfl
  | listed values, place => by
    show Cursor.rest ((values.drop place).drop count) = .rest (values.drop (min (place + count) values.length))
    rw [List.drop_drop, ← List.drop_eq_drop_min]

@[simp] theorem left_cursorAt : ∀ (set : ValueSet) (place : Nat), left (set.cursorAt place) = set.size - place
  | below _, _ => rfl
  | listed _, _ => List.length_drop

@[simp] theorem bounds_cursorAt (set : ValueSet) (place : Nat) :
    bounds (set.cursorAt place) = .exactly (set.size - place) :=
  congrArg CountBounds.exactly (left_cursorAt set place)

@[simp] theorem getElem?_lookedUp_size (set : ValueSet) : set.lookedUp[set.size]? = none :=
  List.getElem?_eq_none (by simp)

theorem read_cursorAt (inside : place ≤ set.size) :
    read (set.cursorAt place) = (set.lookedUp[place]?, set.cursorAt (min (place + 1) set.size)) := by
  rw [Enumerator.read, next?_cursorAt]
  by_cases more : place < set.size
  · rw [Nat.min_eq_left more, List.getElem?_eq_getElem (by simpa using more)]
    rfl
  · obtain rfl : place = set.size := by omega
    rw [getElem?_lookedUp_size, Nat.min_eq_right (Nat.le_succ _)]
    rfl

theorem read_cursorAt_size (set : ValueSet) : read (set.cursorAt set.size) = (none, set.cursorAt set.size) := by
  simp [read_cursorAt (Nat.le_refl _)]

/-- **Passing over values is reading them one by one.** -/
theorem readOn_cursorAt : ∀ (count : Nat) {place : Nat}, place ≤ set.size →
    readOn count (set.cursorAt place) = set.cursorAt (min (place + count) set.size)
  | 0, place, inside => by rw [Nat.add_zero, Nat.min_eq_left inside]; rfl
  | count + 1, place, inside => by
    rw [readOn, read_cursorAt inside, readOn_cursorAt count (Nat.min_le_right ..)]
    congr 1
    omega

/-- A cursor and a place in the list of the values looked up. -/
def AtPlace (set : ValueSet) (cursor : Cursor) (there : ListCursor UInt32) : Prop :=
  ∃ place ≤ set.size, cursor = set.cursorAt place ∧ there = ⟨set.lookedUp, place⟩

/-- **A cursor is alike to a place in the list of the values looked up.** -/
theorem alike_atPlace (set : ValueSet) : Alike set.AtPlace where
  next? := by
    rintro _ _ ⟨place, inside, rfl, rfl⟩
    rw [next?_cursorAt]
    by_cases more : place < set.lookedUp.length
    · rw [ListCursor.next?_of_lt more, List.getElem?_eq_getElem more]
      have below : place < set.size := by simpa using more
      exact .some ⟨rfl, place + 1, below, rfl, rfl⟩
    · have ended := Nat.le_of_not_lt more
      rw [ListCursor.next?_of_ge ended, List.getElem?_eq_none ended]
      exact .none
  skip := by
    rintro _ _ count ⟨place, inside, rfl, rfl⟩
    exact ⟨min (place + count) set.size, Nat.min_le_right .., skip_cursorAt count set place,
      congrArg (fun size => ListCursor.mk set.lookedUp (min (place + count) size)) set.length_lookedUp⟩
  left := by
    rintro _ _ ⟨place, inside, rfl, rfl⟩
    rw [left_cursorAt]
    exact congrArg (· - place) set.length_lookedUp.symm

/-- **A machine finds the values looked up** at the indices below the size. -/
theorem mapM_fetch_range (lawful : set.Lawful) :
    ((List.range set.size).mapM fun index => set.fetch (UInt64.ofNat index)) = .ok set.lookedUp := by
  refine (mapM_eq_ok_iff _ _ _).2 (List.forall₂_iff_get.2 ⟨?_, fun place inside inside' => ?_⟩)
  · simp
  · rw [List.length_range] at inside
    simp only [lookedUp, List.get_eq_getElem, List.getElem_range, List.getElem_ofFn]
    exact fetch_ofNat lawful ⟨place, inside⟩

end ValueSet

namespace Field

open Enumerator

/-- **A cursor answers as a place in the list of the values that are looked up.**  The values at the indices below the
size are found without a fault.  To any requests the cursor of a field answers as a cursor in the list of them does;
wherever it was led, it stands at the place of that cursor, and it tells exactly how many values are left, which is the
size less the place.  Passing over values is reading them one by one, and with no more left than are to be passed over
there is no next value and the cursor is at its end.  A cursor in a list answers by its place. -/
theorem cursor_is_place (field : Field) :
    let items := field.values.lookedUp
    ((List.range field.size).mapM fun index => field.values.fetch (UInt64.ofNat index)) = .ok items ∧
    (∀ requests, converse field.values.cursor requests = converse (ListCursor.start items) requests) ∧
    (∀ requests, ∃ place ≤ field.size,
      let reading := after (.start field.values.cursor) requests
      let here := reading.here
      (after (.start (ListCursor.start items)) requests).here = ⟨items, place⟩ ∧ here = field.values.cursorAt place ∧
      bounds here = .exactly (field.size - place) ∧ left here = field.size - place ∧
      (∀ count, skip count here = readOn count here) ∧
      ∀ skipped, field.size - place ≤ skipped →
        answer reading (.nth skipped) = (.item none, { reading with here := field.values.cursorAt field.size })) ∧
    left (field.values.cursorAt field.size) = 0 ∧
    ∀ {here : Nat}, here ≤ items.length → ∀ (kept : Nat) (request : Request),
      answer ⟨⟨items, here⟩, ⟨items, kept⟩⟩ request = ListCursor.answerAt items here kept request := by
  intro items
  have together : (Reading.start field.values.cursor).Related field.values.AtPlace (.start (ListCursor.start items)) :=
    have started := ⟨0, Nat.zero_le _, (ValueSet.cursorAt_zero field.values).symm, rfl⟩
    ⟨started, started⟩
  have told : ∀ (cursor : ValueSet.Cursor) (there : ListCursor UInt32), field.values.AtPlace cursor there →
      bounds cursor = bounds there := by
    intro cursor there at_place
    exact congrArg CountBounds.exactly ((ValueSet.alike_atPlace field.values).left at_place)
  have alike := ValueSet.alike_atPlace field.values
  refine ⟨ValueSet.mapM_fetch_range field.values_lawful,
    fun requests => alike.answerAll_eq requests (fun _ => told) together, fun requests => ?_,
    (ValueSet.left_cursorAt field.values field.size).trans (Nat.sub_self _),
    fun inside => ListCursor.answer_eq items inside⟩
  obtain ⟨⟨place, inside, here, there⟩, -⟩ := alike.after told requests together
  refine ⟨place, inside, there, here, ?_, ?_, fun count => ?_, fun skipped few => ?_⟩
  · rw [here, ValueSet.bounds_cursorAt]
    rfl
  · rw [here, ValueSet.left_cursorAt]
    rfl
  · rw [here, ValueSet.skip_cursorAt, ValueSet.readOn_cursorAt count inside]
  · have past : min (place + skipped) field.values.size = field.values.size :=
      Nat.min_eq_right (Nat.sub_le_iff_le_add'.1 few)
    simp only [answer, here, ValueSet.skip_cursorAt, past, ValueSet.read_cursorAt_size]
    rfl

/-- A field of all 32-bit words but the last. -/
def word : Field := ⟨"word", .below 0xFFFFFFFF, by decide +kernel, fun zero => nomatch congrArg UInt32.toNat zero⟩

/-- After two of six opcodes the fourth is the last, and passing over four leads to the end; of more values than one
could list, the last but one and the last are read as they are looked up, and then none. -/
theorem mulop_cursor_is_place :
    converse (ListCursor.start mulop.values.lookedUp) [.take 2, .save, .nth 3, .next, .restore, .count, .left] =
      [.items [0, 1], .saved, .item (some 7), .item none, .restored, .number 4, .number 0] ∧
    (let reading := after (.start mulop.values.cursor) [.take 2]
    answer reading (.nth 4) = (.item none, { reading with here := mulop.values.cursorAt mulop.size })) ∧
    converse (ListCursor.start word.values.lookedUp) [.nth 0xFFFFFFFD, .bounds, .next, .nth 0, .left] =
      [.item (some 0xFFFFFFFD), .bounds ⟨1, some 1⟩, .item (some 0xFFFFFFFE), .item none, .number 0] := by
  refine ⟨((cursor_is_place mulop).2.1 _).symm.trans (by decide +kernel), ?_,
    ((cursor_is_place word).2.1 _).symm.trans (by decide +kernel)⟩
  obtain ⟨place, -, there, -, -, -, -, past⟩ := (cursor_is_place mulop).2.2.1 [.take 2]
  have two : 2 = place := congrArg ListCursor.position there
  exact past 4 (by rw [← two]; decide)

end Field

end DispatchChain
