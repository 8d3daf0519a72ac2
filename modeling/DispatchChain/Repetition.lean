/-!
# Repetition — the first entry of a list that already stood before it

Declarations that must be distinct (the values of a field, the fields of a family, the artifacts of
a catalogue) are refused at the first entry that repeats an earlier one.  There is none exactly when
the list has no repetition (`firstRepeat_eq_none_iff`).
-/
namespace DispatchChain

variable {α : Type} [DecidableEq α]

/-- The first entry of a list that stands in `seen` or earlier in the list. -/
def firstRepeatAfter (seen : List α) : List α → Option α
  | [] => none
  | a :: l => if a ∈ seen then some a else firstRepeatAfter (a :: seen) l

/-- The entry at the smallest index whose entry already stood at a smaller one. -/
def firstRepeat (l : List α) : Option α := firstRepeatAfter [] l

theorem firstRepeatAfter_eq_none_iff : ∀ (l seen : List α),
    firstRepeatAfter seen l = none ↔ l.Nodup ∧ ∀ a ∈ l, a ∉ seen
  | [], seen => by simp [firstRepeatAfter]
  | a :: l, seen => by
    by_cases h : a ∈ seen
    · simp [firstRepeatAfter, h]
    · rw [firstRepeatAfter, if_neg h, firstRepeatAfter_eq_none_iff l (a :: seen)]
      simp only [List.nodup_cons, List.mem_cons, not_or, forall_eq_or_imp]
      constructor
      · rintro ⟨nodup, apart⟩
        exact ⟨⟨fun mem => (apart a mem).1 rfl, nodup⟩, h, fun b mem => (apart b mem).2⟩
      · rintro ⟨⟨fresh, nodup⟩, _, apart⟩
        exact ⟨nodup, fun b mem => ⟨fun eq => fresh (eq ▸ mem), apart b mem⟩⟩

/-- **Nothing repeats exactly in a list without repetition.** -/
theorem firstRepeat_eq_none_iff (l : List α) : firstRepeat l = none ↔ l.Nodup := by
  simp [firstRepeat, firstRepeatAfter_eq_none_iff]

end DispatchChain
