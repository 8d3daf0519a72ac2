import DispatchChain.Field
import DispatchChain.Proofs.Identifier
import DispatchChain.Proofs.Repetition
import DispatchChain.Proofs.ValueCursor
/-!
# FieldAcceptance — which fields are accepted, and what they keep

A field is accepted exactly if its name is an identifier, it has a value, and it lists none twice; otherwise the first
of these that does not hold is told.  What is accepted is kept as it was declared (`Field.legal_values_accepted`): the
values are shown in the order of the declaration, and the numbers below a bound from zero on.
-/
namespace DispatchChain

namespace Field

variable {name : String} {bound : UInt32} {values : List UInt32} {field : Field} {error : DeclarationError}

/-- A field has a name and some values: it shows each of these once, in order, and then nothing for ever. -/
structure Keeps (field : Field) (name : String) (values : List UInt32) : Prop where
  name : field.name = name
  shows : ∀ n, Enumerator.converse field.values.cursor (List.replicate n .next) =
    (List.range n).map fun i => .item values[i]?
  distinct : values.Nodup
  size : field.size = values.length
  some_value : 1 ≤ field.size

theorem keeps (field : Field) : field.Keeps field.name field.values.toList where
  name := rfl
  shows := field.values.converse_next
  distinct := ValueSet.nodup_toList field.values_lawful
  size := (ValueSet.length_toList field.values).symm
  some_value := field.size_pos

/-- **What is accepted is the field that was declared**, by its name and its values. -/
theorem below_eq_ok_iff : below name bound = .ok field ↔ field.name = name ∧ field.values = .below bound := by
  unfold below
  constructor
  · intro accepted
    split at accepted
    · split at accepted
      · cases accepted
      · cases accepted
        exact ⟨rfl, rfl⟩
    · cases accepted
  · obtain ⟨name', values', named, lawful⟩ := field
    rintro ⟨rfl, rfl⟩
    rw [dif_pos named, dif_neg lawful]

theorem exists_below_iff : (∃ field, below name bound = .ok field) ↔ MatchesIdentifier name ∧ bound ≠ 0 := by
  simp only [below_eq_ok_iff, ← isIdentifier_iff_matches]
  constructor
  · rintro ⟨⟨_, _, named, lawful⟩, rfl, rfl⟩
    exact ⟨named, lawful⟩
  · rintro ⟨named, nonzero⟩
    exact ⟨⟨name, .below bound, named, nonzero⟩, rfl, rfl⟩

theorem below_eq_error_iff : below name bound = .error error ↔
    error = .notIdentifier name ∧ ¬ MatchesIdentifier name ∨
      error = .zeroBound name ∧ MatchesIdentifier name ∧ bound = 0 := by
  rw [← isIdentifier_iff_matches]
  unfold below
  split
  · rename_i named
    split
    · rename_i zero
      simp [named, zero, eq_comm]
    · rename_i nonzero
      simp [named, nonzero]
  · rename_i unnamed
    simp [unnamed, eq_comm]

theorem listed_eq_ok_iff : listed name values = .ok field ↔ field.name = name ∧ field.values = .listed values := by
  unfold listed
  constructor
  · intro accepted
    split at accepted
    · split at accepted
      · cases accepted
      · split at accepted
        · cases accepted
        · cases accepted
          exact ⟨rfl, rfl⟩
    · cases accepted
  · obtain ⟨name', values', named, lawful⟩ := field
    rintro ⟨rfl, rfl⟩
    have distinct : firstRepeat values = none := (firstRepeat_eq_none_iff values).2 lawful.2
    rw [dif_pos named, dif_neg lawful.1]
    split
    · rename_i repeated
      rw [distinct] at repeated
      cases repeated
    · rfl

theorem exists_listed_iff :
    (∃ field, listed name values = .ok field) ↔ MatchesIdentifier name ∧ values ≠ [] ∧ values.Nodup := by
  simp only [listed_eq_ok_iff, ← isIdentifier_iff_matches]
  constructor
  · rintro ⟨⟨_, _, named, lawful⟩, rfl, rfl⟩
    exact ⟨named, lawful⟩
  · rintro ⟨named, lawful⟩
    exact ⟨⟨name, .listed values, named, lawful⟩, rfl, rfl⟩

theorem listed_eq_error_iff : listed name values = .error error ↔
    error = .notIdentifier name ∧ ¬ MatchesIdentifier name ∨
    error = .noValues name ∧ MatchesIdentifier name ∧ values = [] ∨
    ∃ index value, error = .repeatedValue name value ∧ MatchesIdentifier name ∧ values ≠ [] ∧
      RepeatsFirstAt values index value := by
  rw [← isIdentifier_iff_matches]
  unfold listed
  split
  · rename_i named
    split
    · rename_i empty
      simp [named, empty, eq_comm]
    · rename_i nonempty
      split
      · rename_i value repeated
        obtain ⟨index, repeats⟩ := (firstRepeat_eq_some_iff values value).1 repeated
        simp only [named, nonempty, Except.error.injEq, not_true, and_false, false_or, true_and, ne_eq,
          not_false_eq_true]
        constructor
        · rintro rfl
          exact ⟨index, value, rfl, repeats⟩
        · rintro ⟨other, again, rfl, repeats'⟩
          rw [repeats.unique repeats']
      · rename_i distinct
        have nodup := (firstRepeat_eq_none_iff values).1 distinct
        simp only [named, nonempty, reduceCtorEq, not_true, and_false, false_or, true_and, false_iff]
        rintro ⟨index, value, -, -, repeats⟩
        exact repeats.not_nodup nodup
  · rename_i unnamed
    simp [unnamed, eq_comm]

/-- **A field is accepted exactly if its values are legal, and keeps them.**  With a bound, its name must match the
pattern of identifiers and the bound must not be zero; with a list, its name must match, the list must not be empty, and
its values must be distinct.  Otherwise the first of these that does not hold is told, and of a list the value at the
smallest index whose value already occurred.  A field that is accepted has what was declared and at least one value: it
shows the numbers below the bound from zero on, or the values of the list in their order, each once and as many as its
size, and then nothing. -/
theorem legal_values_accepted (name : String) (bound : UInt32) (values : List UInt32) :
    let spelled := MatchesIdentifier name
    ((∃ field, below name bound = .ok field) ↔ spelled ∧ 1 ≤ bound.toNat) ∧
    (∀ error, below name bound = .error error ↔
      error = .notIdentifier name ∧ ¬ spelled ∨ error = .zeroBound name ∧ spelled ∧ bound.toNat = 0) ∧
    ((∃ field, listed name values = .ok field) ↔ spelled ∧ values ≠ [] ∧ values.Nodup) ∧
    (∀ error, listed name values = .error error ↔
      error = .notIdentifier name ∧ ¬ spelled ∨ error = .noValues name ∧ spelled ∧ values = [] ∨
      ∃ index value, error = .repeatedValue name value ∧ spelled ∧ values ≠ [] ∧ RepeatsFirstAt values index value) ∧
    (∀ field, below name bound = .ok field → field.values = .below bound ∧
      ∃ shown, field.Keeps name shown ∧ shown.map UInt32.toNat = List.range bound.toNat) ∧
    (∀ field, listed name values = .ok field → field.values = .listed values ∧ field.Keeps name values) := by
  intro spelled
  have zero_iff : bound = 0 ↔ bound.toNat = 0 := UInt32.toNat_inj.symm
  have some_iff : bound ≠ 0 ↔ 1 ≤ bound.toNat := by
    rw [Nat.one_le_iff_ne_zero]
    exact not_congr zero_iff
  refine ⟨?_, fun error => ?_, exists_listed_iff, fun error => listed_eq_error_iff, fun field accepted => ?_,
    fun field accepted => ?_⟩
  · rw [exists_below_iff, some_iff]
  · rw [below_eq_error_iff, zero_iff]
  · obtain ⟨rfl, kept⟩ := below_eq_ok_iff.1 accepted
    refine ⟨kept, field.values.toList, field.keeps, ?_⟩
    rw [kept, ValueSet.map_toNat_toList_below]
  · obtain ⟨rfl, kept⟩ := listed_eq_ok_iff.1 accepted
    have keeps := field.keeps
    rw [kept] at keeps
    exact ⟨kept, keeps⟩

/-- Of two values that are listed twice the one that occurs again first is told, though the other was listed first; and
values out of order are kept in theirs. -/
theorem mulop_accepted :
    listed "mulop" [4, 0, 1, 1, 4] = .error (.repeatedValue "mulop" 1) ∧
      below "mulop" 0 = .error (.zeroBound "mulop") ∧ listed "1a" [] = .error (.notIdentifier "1a") ∧
      ∃ field, listed "mulop" [5, 0, 4] = .ok field ∧ field.Keeps "mulop" [5, 0, 4] := by
  have spelled : MatchesIdentifier "mulop" := (isIdentifier_iff_matches "mulop").1 (by decide +kernel)
  have misspelled : ¬ MatchesIdentifier "1a" := mt (isIdentifier_iff_matches "1a").2 (by decide +kernel)
  obtain ⟨index, repeats⟩ := (firstRepeat_eq_some_iff ([4, 0, 1, 1, 4] : List UInt32) 1).1 (by decide)
  obtain ⟨field, accepted⟩ := (legal_values_accepted "mulop" 0 [5, 0, 4]).2.2.1.2 ⟨spelled, by decide, by decide⟩
  refine ⟨?_, ?_, ?_, field, accepted, ((legal_values_accepted "mulop" 0 [5, 0, 4]).2.2.2.2.2 field accepted).2⟩
  · exact ((legal_values_accepted "mulop" 0 [4, 0, 1, 1, 4]).2.2.2.1 _).2
      (.inr (.inr ⟨index, 1, rfl, spelled, by decide, repeats⟩))
  · exact ((legal_values_accepted "mulop" 0 []).2.1 _).2 (.inr ⟨rfl, spelled, rfl⟩)
  · exact ((legal_values_accepted "1a" 0 []).2.2.2.1 _).2 (.inl ⟨rfl, misspelled⟩)

end Field

end DispatchChain
