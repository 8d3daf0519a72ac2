import DispatchChain.Enumerator.ListCursor
import DispatchChain.Proofs.ChainPieces
import Mathlib.Data.Option.Basic
/-!
# Conversation — a reader cannot tell an enumerator from a place in a list

Two enumerators are alike if related states give the same item next, are still related after it and after passing over
items, and have as many items left.  A reader who holds the same conversation with both is then answered the same
(`Enumerator.Alike.answerAll_eq`), whatever is kept and returned to on the way.  An odometer is alike to a cursor in
the list of the nested loops (`Odometer.converse_eq_cursor`).
-/
namespace DispatchChain

namespace Enumerator

variable {σ τ α : Type} [Enumerator σ α] [Enumerator τ α] {R : σ → τ → Prop}

/-- Related states give the same item next, or none, and stay related; and they have as many items left. -/
structure Alike (R : σ → τ → Prop) : Prop where
  next? : ∀ {s t}, R s t → Option.Rel (fun item item' => item.1 = item'.1 ∧ R item.2 item'.2) (next? s) (next? t)
  skip : ∀ {s t} (count : Nat), R s t → R (skip count s) (skip count t)
  left : ∀ {s t}, R s t → left s = left t

/-- Two readers stand at related places and have kept related places. -/
structure Reading.Related (R : σ → τ → Prop) (reading : Reading σ) (reading' : Reading τ) : Prop where
  here : R reading.here reading'.here
  kept : R reading.kept reading'.kept

namespace Alike

variable {s : σ} {t : τ}

theorem read (alike : Alike R) (related : R s t) : (read s).1 = (read t).1 ∧ R (read s).2 (read t).2 := by
  have next := alike.next? related
  unfold Enumerator.read
  generalize Enumerator.next? s = item at next ⊢
  generalize Enumerator.next? t = item' at next ⊢
  cases next with
  | none => exact ⟨rfl, related⟩
  | some same => exact ⟨congrArg some same.1, same.2⟩

theorem take (alike : Alike R) : ∀ (count : Nat) {s : σ} {t : τ}, R s t →
    (take count s).1 = (take count t).1 ∧ R (take count s).2 (take count t).2
  | 0, _, _, related => ⟨rfl, related⟩
  | count + 1, s, t, related => by
    have next := alike.next? related
    unfold Enumerator.take
    generalize Enumerator.next? s = item at next ⊢
    generalize Enumerator.next? t = item' at next ⊢
    cases next with
    | none => exact ⟨rfl, related⟩
    | some same =>
      obtain ⟨items, rest⟩ := alike.take count same.2
      exact ⟨congrArg₂ _ same.1 items, rest⟩

/-- **Alike enumerators give the same answer to a request**, bounds apart, and stay alike. -/
theorem answer (alike : Alike R) {request : Request} (told : request = .bounds → ∀ s t, R s t → bounds s = bounds t)
    {reading : Reading σ} {reading' : Reading τ} (related : reading.Related R reading') :
    (answer reading request).1 = (answer reading' request).1 ∧
      (answer reading request).2.Related R (answer reading' request).2 := by
  obtain ⟨here, kept⟩ := related
  cases request with
  | next => exact ⟨congrArg _ (alike.read here).1, (alike.read here).2, kept⟩
  | nth skipped =>
    have after := alike.read (alike.skip skipped here)
    exact ⟨congrArg _ after.1, after.2, kept⟩
  | take count => exact ⟨congrArg _ (alike.take count here).1, (alike.take count here).2, kept⟩
  | bounds => exact ⟨congrArg _ (told rfl _ _ here), here, kept⟩
  | left => exact ⟨congrArg _ (alike.left here), here, kept⟩
  | count =>
    have same := alike.left here
    refine ⟨congrArg _ same, ?_, kept⟩
    simp only [Enumerator.answer, same]
    exact alike.skip _ here
  | save => exact ⟨rfl, here, here⟩
  | restore => exact ⟨rfl, kept, kept⟩

/-- **A reader is answered the same by alike enumerators**, whatever is asked. -/
theorem answerAll_eq (alike : Alike R) : ∀ (requests : List Request),
    (.bounds ∈ requests → ∀ s t, R s t → bounds s = bounds t) →
      ∀ {reading : Reading σ} {reading' : Reading τ}, reading.Related R reading' →
        answerAll reading requests = answerAll reading' requests
  | [], _, _, _, _ => rfl
  | request :: requests, told, reading, reading', related => by
    obtain ⟨reply, after⟩ := alike.answer (fun bounds => told (bounds ▸ List.mem_cons_self)) related
    have later := alike.answerAll_eq requests (fun mem => told (List.mem_cons_of_mem _ mem)) after
    simp only [answerAll, reply, later]

end Alike

/-- The place of a reader after some requests were answered. -/
def after (reading : Reading σ) (requests : List Request) : Reading σ :=
  requests.foldl (fun reading request => (answer reading request).2) reading

theorem Alike.after (alike : Alike R) (told : ∀ s t, R s t → bounds s = bounds t) : ∀ (requests : List Request)
    {reading : Reading σ} {reading' : Reading τ}, reading.Related R reading' →
      (after reading requests).Related R (after reading' requests)
  | [], _, _, related => related
  | _ :: requests, _, _, related => alike.after told requests (alike.answer (fun _ => told) related).2

/-- What `toCome` lists also tells where a state is after passing over items, and how many are left. -/
structure Tells (toCome : σ → List α) : Prop extends Lists toCome where
  toCome_skip : ∀ (count : Nat) (s : σ), toCome (skip count s) = (toCome s).drop count
  left_eq : ∀ s, left s = (toCome s).length

end Enumerator

namespace ListCursor

open Enumerator

variable {α : Type}

def toCome (cursor : ListCursor α) : List α := cursor.items.drop cursor.position

theorem next?_of_lt {items : List α} {here : Nat} (more : here < items.length) :
    next? (⟨items, here⟩ : ListCursor α) = some (items[here], ⟨items, here + 1⟩) := by
  show items[here]?.map _ = _
  rw [List.getElem?_eq_getElem more]
  rfl

theorem next?_of_ge {items : List α} {here : Nat} (ended : items.length ≤ here) :
    next? (⟨items, here⟩ : ListCursor α) = none := by
  show items[here]?.map _ = _
  rw [List.getElem?_eq_none ended]
  rfl

theorem tells_toCome : Tells (toCome (α := α)) where
  next?_of_nil none_left := next?_of_ge (List.drop_eq_nil_iff.1 none_left)
  next?_of_cons {cursor item items} some_left := by
    have more : cursor.position < cursor.items.length := by
      have longer := congrArg List.length some_left
      rw [toCome, List.length_drop, List.length_cons] at longer
      omega
    rw [toCome, List.drop_eq_getElem_cons more] at some_left
    obtain ⟨rfl, rest⟩ := List.cons.inj some_left
    exact ⟨_, next?_of_lt more, rest⟩
  toCome_skip count cursor := by
    show cursor.items.drop (min (cursor.position + count) cursor.items.length) = _
    rw [toCome, List.drop_drop, ← List.drop_eq_drop_min]
  left_eq _ := List.length_drop.symm

/-- The answer at a place in a list, and the places after it: the next item is the one there, `nth` moves on past
others, `take` and `count` move on past what they answer, and a place that is kept stays where it was. -/
def answerAt (items : List α) (here kept : Nat) : Request → Reply α × Reading (ListCursor α)
  | .next => (.item items[here]?, ⟨⟨items, min (here + 1) items.length⟩, ⟨items, kept⟩⟩)
  | .nth skipped => (.item items[here + skipped]?, ⟨⟨items, min (here + skipped + 1) items.length⟩, ⟨items, kept⟩⟩)
  | .take count => (.items ((items.drop here).take count), ⟨⟨items, min (here + count) items.length⟩, ⟨items, kept⟩⟩)
  | .bounds => (.bounds (.exactly (items.length - here)), ⟨⟨items, here⟩, ⟨items, kept⟩⟩)
  | .left => (.number (items.length - here), ⟨⟨items, here⟩, ⟨items, kept⟩⟩)
  | .count => (.number (items.length - here), ⟨⟨items, items.length⟩, ⟨items, kept⟩⟩)
  | .save => (.saved, ⟨⟨items, here⟩, ⟨items, here⟩⟩)
  | .restore => (.restored, ⟨⟨items, kept⟩, ⟨items, kept⟩⟩)

theorem read_eq (items : List α) {here : Nat} (inside : here ≤ items.length) :
    read (⟨items, here⟩ : ListCursor α) = (items[here]?, ⟨items, min (here + 1) items.length⟩) := by
  by_cases more : here < items.length
  · rw [Enumerator.read, next?_of_lt more, List.getElem?_eq_getElem more, Nat.min_eq_left more]
  · have ended : here = items.length := by omega
    subst ended
    rw [Enumerator.read, next?_of_ge (Nat.le_refl _), List.getElem?_eq_none (Nat.le_refl _),
      Nat.min_eq_right (Nat.le_succ _)]

theorem take_eq (items : List α) : ∀ (count : Nat) {here : Nat}, here ≤ items.length →
    take count (⟨items, here⟩ : ListCursor α) =
      ((items.drop here).take count, ⟨items, min (here + count) items.length⟩)
  | 0, here, inside => by rw [Nat.add_zero, Nat.min_eq_left inside]; rfl
  | count + 1, here, inside => by
    by_cases more : here < items.length
    · rw [take, next?_of_lt more, List.drop_eq_getElem_cons more, List.take_succ_cons]
      simp only [take_eq items count more, Nat.add_right_comm here 1 count, Nat.add_assoc]
    · have ended : here = items.length := by omega
      subst ended
      rw [take, next?_of_ge (Nat.le_refl _), List.drop_length, Nat.min_eq_right (Nat.le_add_right ..)]
      rfl

theorem answer_eq (items : List α) {here : Nat} (inside : here ≤ items.length) (kept : Nat) (request : Request) :
    answer ⟨⟨items, here⟩, ⟨items, kept⟩⟩ request = answerAt items here kept request := by
  cases request with
  | next => simp only [answer, read_eq items inside, answerAt]
  | nth skipped =>
    have skip : skip skipped (⟨items, here⟩ : ListCursor α) = ⟨items, min (here + skipped) items.length⟩ := rfl
    simp only [answer, skip, read_eq items (Nat.min_le_right ..), answerAt]
    by_cases more : here + skipped ≤ items.length
    · rw [Nat.min_eq_left more]
    · have past : items.length ≤ here + skipped := by omega
      rw [Nat.min_eq_right past, List.getElem?_eq_none (Nat.le_refl _), List.getElem?_eq_none past,
        Nat.min_eq_right (Nat.le_succ _), Nat.min_eq_right (Nat.le_succ_of_le past)]
  | take count => simp only [answer, take_eq items count inside, answerAt]
  | bounds => rfl
  | left => rfl
  | count =>
    have all : here + (items.length - here) = items.length := by omega
    show (_, (⟨⟨items, min (here + (items.length - here)) items.length⟩, ⟨items, kept⟩⟩ : Reading (ListCursor α))) = _
    rw [all, Nat.min_self]
    rfl
  | save => rfl
  | restore => rfl

end ListCursor

namespace Enumerator

variable {σ α : Type} [Enumerator σ α] {toCome : σ → List α}

/-- **An enumerator is alike to a place in the list of what it has to come.** -/
theorem Tells.alike (tells : Tells toCome) :
    Alike fun (s : σ) (cursor : ListCursor α) => toCome s = cursor.toCome where
  next? {s cursor} same := by
    cases h : toCome s with
    | nil =>
      rw [tells.next?_of_nil h, ListCursor.tells_toCome.next?_of_nil (same ▸ h)]
      exact .none
    | cons item items =>
      obtain ⟨rest, next, left⟩ := tells.next?_of_cons h
      obtain ⟨rest', next', left'⟩ := ListCursor.tells_toCome.next?_of_cons (same ▸ h)
      rw [next, next']
      exact .some ⟨rfl, left.trans left'.symm⟩
  skip count same := by rw [tells.toCome_skip, ListCursor.tells_toCome.toCome_skip, same]
  left same := by rw [tells.left_eq, ListCursor.tells_toCome.left_eq, same]

/-- What reading on and passing over items keeps of a state may be told of related states too. -/
theorem Alike.and {τ : Type} [Enumerator τ α] {R : σ → τ → Prop} {P : σ → Prop} (alike : Alike R)
    (after_next : ∀ {s item rest}, P s → Enumerator.next? s = some (item, rest) → P rest)
    (after_skip : ∀ (count : Nat) {s : σ}, P s → P (Enumerator.skip count s)) : Alike fun s t => R s t ∧ P s where
  next? {s t} related := by
    have same := alike.next? related.1
    have kept := fun item rest => @after_next s item rest related.2
    generalize Enumerator.next? s = item at same kept
    generalize Enumerator.next? t = item' at same
    cases same with
    | none => exact .none
    | some same => exact .some ⟨same.1, same.2, kept _ _ rfl⟩
  skip count related := ⟨alike.skip count related.1, after_skip count related.2⟩
  left related := alike.left related.1

end Enumerator

namespace Wheel

/-- **Wheels have as many encodings to come as there are, less those before the one at which they stand.** -/
theorem length_toCome_add_rank : ∀ wheels : List Wheel, (toCome wheels).length + rank wheels = span wheels
  | [] => rfl
  | wheel :: wheels => by
    have later := length_toCome_add_rank wheels
    have whole : (Encoding.all (wheels.map field)).length = span wheels := by
      rw [Encoding.length_all, List.map_map]
      rfl
    have turns : wheel.field.size = (wheel.field.size - (wheel.position + 1)) + wheel.position + 1 := by
      have inside := wheel.position.isLt
      omega
    have blocks : (toCome (wheel :: wheels)).length =
        (toCome wheels).length + (wheel.field.size - (wheel.position + 1)) * span wheels := by
      rw [toCome, List.length_append, List.length_map, List.length_flatMap]
      simp only [List.length_map, List.map_const', List.sum_replicate_nat, whole, List.length_drop,
        ValueSet.length_toList]
      rfl
    calc (toCome (wheel :: wheels)).length + rank (wheel :: wheels)
        = ((toCome wheels).length + rank wheels) +
            ((wheel.field.size - (wheel.position + 1)) * span wheels + wheel.position * span wheels) := by
          rw [blocks, rank]; omega
      _ = ((wheel.field.size - (wheel.position + 1)) + wheel.position + 1) * span wheels := by
          rw [later, Nat.add_mul, Nat.add_mul, Nat.one_mul, Nat.add_comm]
      _ = span (wheel :: wheels) := by rw [← turns]; rfl

end Wheel

namespace Odometer

open Enumerator

theorem toCome_skip : ∀ (count : Nat) (odometer : Odometer), (skip count odometer).toCome = odometer.toCome.drop count
  | 0, _ => rfl
  | count + 1, odometer => by
    rw [skip]
    by_cases done : odometer.done
    · rw [if_pos done, (toCome_eq_nil_iff odometer).2 done, List.drop_nil]
    · rw [if_neg done, toCome_skip count, toCome_of_not_done done, List.drop_succ_cons]

theorem left_eq_length_toCome (odometer : Odometer) : odometer.left = odometer.toCome.length := by
  rw [left, toCome]
  split
  · rfl
  · have whole := Wheel.length_toCome_add_rank odometer.wheels
    omega

theorem tells_toCome : Tells toCome where
  toLists := lists_toCome
  toCome_skip := toCome_skip
  left_eq := left_eq_length_toCome

/-- The countdown stands at the number of encodings to come. -/
def Counted (odometer : Odometer) : Prop := odometer.countdown = some odometer.toCome.length

theorem counted_start {fields : List Field} (fits : product (fields.map Field.size) ≤ wordMax) :
    (start fields).Counted := by
  rw [Counted, toCome_start, Encoding.length_all]
  exact wordProduct?_eq_some Field.pos_of_mem_sizes fits

theorem Counted.advance {odometer : Odometer} (counted : odometer.Counted) (more : ¬ odometer.done) :
    odometer.advance.Counted := by
  have down : odometer.advance.countdown = odometer.countdown.map (· - 1) := rfl
  rw [Counted, down, counted, toCome_of_not_done more]
  rfl

theorem Counted.next {odometer rest : Odometer} {encoding : Encoding} (counted : odometer.Counted)
    (next : odometer.next? = some (encoding, rest)) : rest.Counted := by
  unfold Odometer.next? at next
  split at next
  · cases next
  · rename_i more
    cases next
    exact counted.advance more

theorem Counted.skip : ∀ (count : Nat) {odometer : Odometer}, odometer.Counted → (odometer.skip count).Counted
  | 0, _, counted => counted
  | count + 1, odometer, counted => by
    rw [Odometer.skip]
    split
    · exact counted
    · rename_i more
      exact (counted.advance more).skip count

theorem Counted.bounds_eq {odometer : Odometer} (counted : odometer.Counted) :
    odometer.bounds = .exactly odometer.toCome.length := by
  rw [Odometer.bounds]
  split
  · rename_i done
    rw [(toCome_eq_nil_iff odometer).2 done]
    rfl
  · rw [counted]

/-- **An odometer answers as a cursor in the list of the nested loops does**, to any requests, the bounds apart.  If a
word holds the product of the fields' sizes, it answers requests for bounds alike too: wherever it was led, its bounds
are exactly what is left, which is nothing exactly when it has nothing more to give.  A cursor answers by its place in
the list, and a place that was kept is returned to whatever was read since. -/
theorem converse_eq_cursor (fields : List Field) :
    let items := Encoding.all fields
    (∀ requests, .bounds ∉ requests →
      converse (start fields) requests = converse (ListCursor.start items) requests) ∧
    (product (fields.map Field.size) ≤ wordMax → ∀ requests,
      converse (start fields) requests = converse (ListCursor.start items) requests ∧
      let here := (after (.start (start fields)) requests).here
      let there := (after (.start (ListCursor.start items)) requests).here
      left here = there.left ∧ bounds here = .exactly there.left ∧ (there.left = 0 ↔ next? here = none)) ∧
    ∀ {here : Nat}, here ≤ items.length → ∀ (kept : Nat) (request : Request),
      answer ⟨⟨items, here⟩, ⟨items, kept⟩⟩ request = ListCursor.answerAt items here kept request := by
  intro items
  have together : (start fields).toCome = (ListCursor.start items).toCome := toCome_start fields
  refine ⟨fun requests unasked => ?_, fun fits requests => ?_, fun inside => ListCursor.answer_eq items inside⟩
  · exact tells_toCome.alike.answerAll_eq requests (fun asked => absurd asked unasked) ⟨together, together⟩
  · have alike := tells_toCome.alike.and (P := Counted) Counted.next Counted.skip
    have started : (Reading.start (start fields)).Related (fun odometer cursor =>
        odometer.toCome = ListCursor.toCome cursor ∧ odometer.Counted) (.start (ListCursor.start items)) :=
      ⟨⟨together, counted_start fits⟩, ⟨together, counted_start fits⟩⟩
    have told : ∀ (odometer : Odometer) (cursor : ListCursor Encoding),
        odometer.toCome = cursor.toCome ∧ odometer.Counted →
          Enumerator.bounds odometer = Enumerator.bounds cursor := by
      rintro odometer cursor ⟨same, counted⟩
      have exact_left : odometer.toCome.length = cursor.left := by rw [same, ← ListCursor.tells_toCome.left_eq]; rfl
      exact (exact_left ▸ counted.bounds_eq : odometer.bounds = .exactly cursor.left)
    refine ⟨alike.answerAll_eq requests (fun _ => told) started, ?_⟩
    obtain ⟨⟨same, counted⟩, -⟩ := alike.after told requests started
    intro here there
    have left : left here = there.left := alike.left ⟨same, counted⟩
    refine ⟨left, told _ _ ⟨same, counted⟩, ?_⟩
    rw [← left, left_eq_length_toCome, List.length_eq_zero_iff]
    constructor
    · exact fun none_left => lists_toCome.next?_of_nil none_left
    · intro ended
      rw [toCome_eq_nil_iff]
      by_contra more
      rw [show here.next? = some (here.encoding, here.advance) from if_neg more] at ended
      cases ended

/-- Skipped to its exact end, an odometer gives nothing; from a place that was kept it gives again what it gave. -/
theorem swap_converses :
    let fields := Family.swap.fields ++ Family.swap.fields
    converse (start fields) [.nth 4, .next] = [.item none, .item none] ∧
      converse (start fields) [.take 1, .save, .nth 1, .bounds, .restore, .count, .left] =
        [.items [⟨[("byteword", 0), ("byteword", 0)]⟩], .saved,
          .item (some ⟨[("byteword", 1), ("byteword", 0)]⟩), .bounds ⟨1, some 1⟩, .restored, .number 3, .number 0] :=
  have fits : product ((Family.swap.fields ++ Family.swap.fields).map Field.size) ≤ wordMax := by decide
  ⟨((converse_eq_cursor (Family.swap.fields ++ Family.swap.fields)).1 _ (by decide)).trans (by decide +kernel),
    ((converse_eq_cursor (Family.swap.fields ++ Family.swap.fields)).2.1 fits _).1.trans (by decide +kernel)⟩

end Odometer

end DispatchChain
