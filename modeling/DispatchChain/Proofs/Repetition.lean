import DispatchChain.Repetition
import Mathlib.Data.List.Basic
/-!
# Repetition — which entry of a list is refused

A list with a repetition is refused at the smallest index whose entry already stood at a smaller one
(`firstRepeat_eq_some_iff`), and every list that is not free of repetitions has such an index
(`exists_repeatsFirstAt`).
-/
namespace DispatchChain

variable {α : Type}

/-- The entry at an index already stood at a smaller one, and this holds of no smaller index. -/
structure RepeatsFirstAt (l : List α) (index : Nat) (a : α) : Prop where
  stands : l[index]? = some a
  stood : a ∈ l.take index
  first : ∀ earlier < index, ∀ b, l[earlier]? = some b → b ∉ l.take earlier

variable [DecidableEq α]

theorem firstRepeatAfter_eq_some_iff : ∀ (l seen : List α) (a : α),
    firstRepeatAfter seen l = some a ↔
      ∃ index, l[index]? = some a ∧ (a ∈ seen ∨ a ∈ l.take index) ∧
        ∀ earlier < index, ∀ b, l[earlier]? = some b → b ∉ seen ∧ b ∉ l.take earlier
  | [], seen, a => by simp [firstRepeatAfter]
  | head :: l, seen, a => by
    by_cases known : head ∈ seen
    · rw [firstRepeatAfter, if_pos known, Option.some.injEq]
      constructor
      · rintro rfl
        exact ⟨0, rfl, .inl known, fun _ before => absurd before (Nat.not_lt_zero _)⟩
      · rintro ⟨_ | index, stands, -, first⟩
        · exact Option.some.inj stands
        · exact absurd known (first 0 (Nat.succ_pos index) head rfl).1
    · rw [firstRepeatAfter, if_neg known, firstRepeatAfter_eq_some_iff l (head :: seen) a]
      -- An index in the rest is one more in the list, where the head stands before it.
      constructor
      · rintro ⟨index, stands, stood, first⟩
        refine ⟨index + 1, stands, ?_, ?_⟩
        · rw [List.take_succ_cons, List.mem_cons]
          rw [List.mem_cons] at stood
          tauto
        · rintro (_ | earlier) before b found
          · cases found
            exact ⟨known, List.not_mem_nil⟩
          · have apart := first earlier (Nat.lt_of_succ_lt_succ before) b found
            rw [List.mem_cons, not_or] at apart
            rw [List.take_succ_cons, List.mem_cons, not_or]
            exact ⟨apart.1.2, apart.1.1, apart.2⟩
      · rintro ⟨_ | index, stands, stood, first⟩
        · cases stands
          rw [List.take_zero] at stood
          exact absurd stood (by simpa using known)
        · refine ⟨index, stands, ?_, fun earlier before b found => ?_⟩
          · rw [List.take_succ_cons, List.mem_cons] at stood
            rw [List.mem_cons]
            tauto
          · have apart := first (earlier + 1) (Nat.succ_lt_succ before) b found
            rw [List.take_succ_cons, List.mem_cons, not_or] at apart
            rw [List.mem_cons, not_or]
            exact ⟨⟨apart.2.1, apart.1⟩, apart.2.2⟩

/-- **A list is refused at the smallest index whose entry already stood before it.** -/
theorem firstRepeat_eq_some_iff (l : List α) (a : α) :
    firstRepeat l = some a ↔ ∃ index, RepeatsFirstAt l index a := by
  rw [firstRepeat, firstRepeatAfter_eq_some_iff]
  refine exists_congr fun index => ?_
  simp only [List.not_mem_nil, false_or, not_false_eq_true, true_and]
  constructor
  · rintro ⟨stands, stood, first⟩
    exact ⟨stands, stood, first⟩
  · rintro ⟨stands, stood, first⟩
    exact ⟨stands, stood, first⟩

theorem exists_repeatsFirstAt {l : List α} (repeated : ¬ l.Nodup) : ∃ index a, RepeatsFirstAt l index a := by
  obtain ⟨a, found⟩ := Option.ne_none_iff_exists'.1 (mt (firstRepeat_eq_none_iff l).1 repeated)
  obtain ⟨index, at_⟩ := (firstRepeat_eq_some_iff l a).1 found
  exact ⟨index, a, at_⟩

theorem RepeatsFirstAt.not_nodup {l : List α} {index : Nat} {a : α} (repeats : RepeatsFirstAt l index a) :
    ¬ l.Nodup := by
  rw [← firstRepeat_eq_none_iff, (firstRepeat_eq_some_iff l a).2 ⟨index, repeats⟩]
  exact Option.some_ne_none a

theorem RepeatsFirstAt.unique {l : List α} {index other : Nat} {a b : α} (repeats : RepeatsFirstAt l index a)
    (repeats' : RepeatsFirstAt l other b) : a = b := by
  have found := (firstRepeat_eq_some_iff l a).2 ⟨index, repeats⟩
  rw [(firstRepeat_eq_some_iff l b).2 ⟨other, repeats'⟩] at found
  exact (Option.some.inj found).symm

end DispatchChain
