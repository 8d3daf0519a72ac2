import DispatchChain.Proofs.Conversation
/-!
# Bounding — whether an odometer bounds what it has to come

With a countdown, an odometer tells exactly how many encodings it has to come.  Without one it tells that there are at
least as many as a word can count, up to the last (`Odometer.bounds_readOn`).  That is true at the start, but not to the
end: the lower bound is too high as soon as fewer encodings are left (`Odometer.bounds_admit_iff`).
-/
namespace DispatchChain

def CountBounds.Admits (bounds : CountBounds) (count : Nat) : Prop :=
  bounds.low ≤ count ∧ ∀ high, bounds.high = some high → count ≤ high

theorem CountBounds.admits_exactly (count : Nat) : (exactly count).Admits count :=
  ⟨Nat.le_refl count, fun _ told => Nat.le_of_eq (Option.some.inj told)⟩

namespace Enumerator

variable {σ α : Type} [Enumerator σ α] {toCome : σ → List α}

/-- The state after so many items were asked for, one by one. -/
def readOn : (items : Nat) → σ → σ
  | 0, s => s
  | items + 1, s => readOn items (read s).2

/-- What each item that is read keeps is kept however many are read. -/
theorem readOn_keeps {P : σ → Prop} (step : ∀ {s item rest}, P s → next? s = some (item, rest) → P rest) :
    ∀ (items : Nat) {s : σ}, P s → P (readOn items s)
  | 0, _, start => start
  | items + 1, s, start => by
    refine readOn_keeps step items ?_
    rw [read]
    cases next : next? s with
    | none => exact start
    | some found => exact step start next

namespace Lists

theorem toCome_readOn (lists : Lists toCome) : ∀ (items : Nat) (s : σ),
    toCome (readOn items s) = (toCome s).drop items
  | 0, _ => rfl
  | items + 1, s => by
    rw [readOn, lists.toCome_readOn items, lists.toCome_read, List.drop_tail]

theorem take_fst (lists : Lists toCome) : ∀ (items : Nat) (s : σ), (take items s).1 = (toCome s).take items
  | 0, _ => rfl
  | items + 1, s => by
    rw [take]
    cases h : toCome s with
    | nil => rw [lists.next?_of_nil h]; rfl
    | cons a l =>
      obtain ⟨rest, next, left⟩ := lists.next?_of_cons h
      rw [next]
      simp only [lists.take_fst items rest, left, List.take_succ_cons]

end Lists

end Enumerator

namespace Odometer

open Enumerator

variable (fields : List Field) (items : Nat)

theorem toCome_readOn : (readOn items (start fields)).toCome = (Encoding.all fields).drop items := by
  rw [lists_toCome.toCome_readOn, toCome_start]

theorem length_drop_all : ((Encoding.all fields).drop items).length = product (fields.map Field.size) - items := by
  rw [List.length_drop, Encoding.length_all]

theorem done_readOn_iff : (readOn items (start fields)).done ↔ product (fields.map Field.size) ≤ items := by
  rw [← toCome_eq_nil_iff, toCome_readOn, List.drop_eq_nil_iff, Encoding.length_all]

theorem Counted.readOn {odometer : Odometer} (counted : odometer.Counted) : (readOn items odometer).Counted :=
  readOn_keeps Counted.next items counted

/-- **A countdown that is missing at the start is missing to the end.** -/
theorem countdown_readOn {odometer : Odometer} (uncounted : odometer.countdown = none) :
    (Enumerator.readOn items odometer).countdown = none := by
  refine readOn_keeps (P := fun odometer : Odometer => odometer.countdown = none) ?_ items uncounted
  intro odometer encoding rest uncounted next
  change Odometer.next? odometer = _ at next
  unfold Odometer.next? at next
  split at next
  · cases next
  · cases next
    rw [advance, uncounted]
    rfl

theorem countdown_start (beyond : wordMax < product (fields.map Field.size)) : (start fields).countdown = none := by
  have unformed := mt (isSome_wordProduct?_iff Field.pos_of_mem_sizes).1 (Nat.not_le_of_lt beyond)
  rwa [Option.not_isSome_iff_eq_none] at unformed

/-- **What an odometer tells after any number of encodings**: nothing is left, or exactly what is left if a word held
their number at the start, and otherwise that a word cannot count them. -/
theorem bounds_readOn :
    bounds (readOn items (start fields)) =
      let count := product (fields.map Field.size)
      if count ≤ items then .exactly 0 else if count ≤ wordMax then .exactly (count - items) else ⟨wordMax, none⟩ := by
  show (readOn items (start fields)).bounds = _
  simp only
  by_cases ended : product (fields.map Field.size) ≤ items
  · rw [if_pos ended, Odometer.bounds, if_pos ((done_readOn_iff fields items).2 ended)]
  rw [if_neg ended]
  by_cases fits : product (fields.map Field.size) ≤ wordMax
  · rw [if_pos fits, ((counted_start fits).readOn items).bounds_eq, toCome_readOn, length_drop_all]
  · have uncounted := countdown_readOn items (countdown_start fields (Nat.lt_of_not_le fits))
    rw [if_neg fits, Odometer.bounds, if_neg (mt (done_readOn_iff fields items).1 ended), uncounted]

/-- **The bounds that an odometer tells hold unless it has lost count and nears its end.**  After any number of items an
odometer has to come what the nested loops list from there, and tells how much that is: exactly, if a word holds the
number of all encodings, or once none is left; and otherwise that there are at least as many as a word can count.  So
its bounds hold exactly if a word holds the number of all encodings, or at least as many as a word can count are left,
or none is. -/
theorem bounds_admit_iff :
    let count := product (fields.map Field.size)
    let here := readOn items (start fields)
    (∀ n, (take n here).1 = ((Encoding.all fields).drop items).take n) ∧
    ((Encoding.all fields).drop items).length = count - items ∧ left here = count - items ∧
    bounds here = (if count ≤ items then .exactly 0
      else if count ≤ wordMax then .exactly (count - items) else ⟨wordMax, none⟩) ∧
    ((bounds here).Admits (count - items) ↔ count ≤ wordMax ∨ wordMax ≤ count - items ∨ count ≤ items) := by
  intro count here
  have told : bounds here = if count ≤ items then .exactly 0
      else if count ≤ wordMax then .exactly (count - items) else ⟨wordMax, none⟩ := bounds_readOn fields items
  refine ⟨fun n => ?_, length_drop_all fields items, ?_, told, ?_⟩
  · rw [lists_toCome.take_fst, toCome_readOn]
  · rw [left_eq_length_toCome, toCome_readOn, length_drop_all]
  rw [told]
  split
  · rename_i ended
    rw [Nat.sub_eq_zero_of_le ended]
    exact iff_of_true (CountBounds.admits_exactly 0) (.inr (.inr ended))
  · split
    · rename_i fits
      exact iff_of_true (CountBounds.admits_exactly _) (.inl fits)
    · rename_i more beyond
      simp only [CountBounds.Admits, reduceCtorEq, false_implies, implies_true, and_true]
      omega

/-- Four fields of sixteen bits, with one encoding more than a word can count. -/
def quarters : List Field :=
  List.replicate 4 ⟨"quarter", .below 0x10000, by decide +kernel, show (0x10000 : UInt32) ≠ 0 by decide⟩

/-- **After two encodings of one more than a word can count, the lower bound is too high.** -/
theorem bounds_exceed_left :
    left (readOn 2 (start quarters)) = wordMax - 1 ∧ bounds (readOn 2 (start quarters)) = ⟨wordMax, none⟩ ∧
      ¬ (bounds (readOn 2 (start quarters))).Admits (left (readOn 2 (start quarters))) := by
  have count : product (quarters.map Field.size) = wordMax + 1 := by decide +kernel
  have remain : left (readOn 2 (start quarters)) = wordMax - 1 := by
    rw [left_eq_length_toCome, toCome_readOn, length_drop_all, count]
    rfl
  have told : bounds (readOn 2 (start quarters)) = ⟨wordMax, none⟩ := by
    rw [bounds_readOn]
    simp only [count]
    decide
  refine ⟨remain, told, ?_⟩
  rw [remain, told]
  rintro ⟨low, -⟩
  revert low
  decide

end Odometer

end DispatchChain
