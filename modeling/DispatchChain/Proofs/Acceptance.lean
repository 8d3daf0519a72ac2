import DispatchChain.Family
import DispatchChain.Proofs.Identifier
import DispatchChain.Proofs.Repetition
import DispatchChain.Proofs.WordCount
/-!
# Acceptance — which families are accepted, and why others are refused

A declaration meets four conditions or is refused for the first that it does not meet (`Family.declare_verdict`).  The
encodings are counted from left to right, and an overflow on the way is never made good, since no field is without
values; so it does not matter in which order the fields are declared (`Family.declare_decides`).
-/
namespace DispatchChain

namespace Family

/-- The answer to a declaration, by the first condition that it does not meet. -/
inductive Verdict (artifact : String) (fields : List Field) (handler : String) :
    Except DeclarationError Family → Prop
  | badArtifactName : ¬ IsArtifactName artifact → Verdict artifact fields handler (.error (.badArtifactName artifact))
  | notIdentifier : IsArtifactName artifact → ¬ MatchesIdentifier handler →
      Verdict artifact fields handler (.error (.notIdentifier handler))
  | repeatedField {index : Nat} {field : String} : IsArtifactName artifact → MatchesIdentifier handler →
      RepeatsFirstAt (fields.map Field.name) index field →
      Verdict artifact fields handler (.error (.repeatedField artifact field))
  | tooManyEncodings : IsArtifactName artifact → MatchesIdentifier handler → (fields.map Field.name).Nodup →
      wordMax < product (fields.map Field.size) →
      Verdict artifact fields handler (.error (.tooManyEncodings artifact))
  | accepted {family : Family} : IsArtifactName artifact → MatchesIdentifier handler →
      (fields.map Field.name).Nodup → product (fields.map Field.size) ≤ wordMax →
      family.artifact = artifact → family.fields = fields → family.handler = handler →
      Verdict artifact fields handler (.ok family)

variable {artifact : String} {fields : List Field} {handler : String}

/-- **A declaration is answered by the first condition that it does not meet**, and accepted if there is none. -/
theorem declare_verdict (artifact : String) (fields : List Field) (handler : String) :
    Verdict artifact fields handler (declare artifact fields handler) := by
  unfold declare
  split
  · rename_i isName
    split
    · rename_i isIdentifier
      have spelled := (isIdentifier_iff_matches handler).1 isIdentifier
      split
      · rename_i field repeated
        obtain ⟨index, at_⟩ := (firstRepeat_eq_some_iff _ field).1 repeated
        exact .repeatedField isName spelled at_
      · rename_i none_repeated
        have distinct := (firstRepeat_eq_none_iff _).1 none_repeated
        split
        · rename_i counted
          have fits := (isSome_wordProduct?_iff Field.pos_of_mem_sizes).1 counted
          exact .accepted isName spelled distinct fits rfl rfl rfl
        · rename_i uncounted
          have beyond := mt (isSome_wordProduct?_iff Field.pos_of_mem_sizes).2 uncounted
          exact .tooManyEncodings isName spelled distinct (Nat.lt_of_not_le beyond)
    · rename_i isIdentifier
      exact .notIdentifier isName (mt (isIdentifier_iff_matches handler).2 isIdentifier)
  · rename_i isName
    exact .badArtifactName isName

theorem exists_declare_iff : (∃ family, declare artifact fields handler = .ok family) ↔
    IsArtifactName artifact ∧ MatchesIdentifier handler ∧ (fields.map Field.name).Nodup ∧
      product (fields.map Field.size) ≤ wordMax := by
  have verdict := declare_verdict artifact fields handler
  generalize declare artifact fields handler = answer at verdict
  cases verdict with
  | badArtifactName bad => simp [bad]
  | notIdentifier _ bad => simp [bad]
  | repeatedField _ _ repeats => simp [repeats.not_nodup]
  | tooManyEncodings _ _ _ beyond => simp [Nat.not_le_of_lt beyond]
  | accepted isName spelled distinct fits => simp [isName, spelled, distinct, fits]

theorem declare_eq_error_iff {error : DeclarationError} : declare artifact fields handler = .error error ↔
    (error = .badArtifactName artifact ∧ ¬ IsArtifactName artifact) ∨
    (error = .notIdentifier handler ∧ IsArtifactName artifact ∧ ¬ MatchesIdentifier handler) ∨
    (∃ index field, error = .repeatedField artifact field ∧ IsArtifactName artifact ∧ MatchesIdentifier handler ∧
      RepeatsFirstAt (fields.map Field.name) index field) ∨
    (error = .tooManyEncodings artifact ∧ IsArtifactName artifact ∧ MatchesIdentifier handler ∧
      (fields.map Field.name).Nodup ∧ wordMax < product (fields.map Field.size)) := by
  have verdict := declare_verdict artifact fields handler
  constructor
  · intro refused
    rw [refused] at verdict
    cases verdict with
    | badArtifactName bad => exact .inl ⟨rfl, bad⟩
    | notIdentifier isName bad => exact .inr (.inl ⟨rfl, isName, bad⟩)
    | repeatedField isName spelled repeats => exact .inr (.inr (.inl ⟨_, _, rfl, isName, spelled, repeats⟩))
    | tooManyEncodings isName spelled distinct beyond =>
      exact .inr (.inr (.inr ⟨rfl, isName, spelled, distinct, beyond⟩))
  · -- Each condition that fails after others hold is the one by which the answer is given.
    generalize declare artifact fields handler = answer at verdict
    rintro (⟨rfl, bad⟩ | ⟨rfl, isName, bad⟩ | ⟨index, field, rfl, isName, spelled, repeats⟩ |
      ⟨rfl, isName, spelled, distinct, beyond⟩)
    · cases verdict with
      | badArtifactName _ => rfl
      | notIdentifier isName _ | repeatedField isName _ _ | tooManyEncodings isName _ _ _ | accepted isName =>
        exact absurd isName bad
    · cases verdict with
      | notIdentifier _ _ => rfl
      | badArtifactName bad' => exact absurd isName bad'
      | repeatedField _ spelled _ | tooManyEncodings _ spelled _ _ | accepted _ spelled =>
        exact absurd spelled bad
    · cases verdict with
      | repeatedField _ _ repeats' => rw [repeats.unique repeats']
      | badArtifactName bad => exact absurd isName bad
      | notIdentifier _ bad => exact absurd spelled bad
      | tooManyEncodings _ _ distinct _ | accepted _ _ distinct => exact absurd distinct repeats.not_nodup
    · cases verdict with
      | tooManyEncodings _ _ _ _ => rfl
      | badArtifactName bad => exact absurd isName bad
      | notIdentifier _ bad => exact absurd spelled bad
      | repeatedField _ _ repeats => exact absurd distinct repeats.not_nodup
      | accepted _ _ _ fits => exact absurd fits (Nat.not_le_of_lt beyond)

theorem declare_eq_tooManyEncodings_iff : declare artifact fields handler = .error (.tooManyEncodings artifact) ↔
    IsArtifactName artifact ∧ MatchesIdentifier handler ∧ (fields.map Field.name).Nodup ∧
      wordMax < product (fields.map Field.size) := by
  simp [declare_eq_error_iff]

theorem wordProduct?_eq_count (family : Family) : wordProduct? (family.fields.map Field.size) = some family.count :=
  (Option.some_get family.count_fits).symm

/-- **A family is accepted exactly if it is well formed**: its artifact has the name of a file in a directory, its
handler matches the pattern of identifiers, its fields have distinct names, and a word can count its encodings.
Otherwise it is refused for the first of these that does not hold, and the field named is the first whose name already
occurred.  The order of the fields matters neither for their count nor for whether a family is accepted or has too
many encodings.  A family that is accepted has what was declared, and its count is the product of the sizes, formed
without overflow. -/
theorem declare_decides (artifact : String) (fields : List Field) (handler : String) :
    let names := fields.map Field.name
    let encodings := product (fields.map Field.size)
    let named := artifact ≠ "" ∧ artifact ≠ "." ∧ artifact ≠ ".." ∧ '/' ∉ artifact.toList ∧ '\\' ∉ artifact.toList
    let spelled := MatchesIdentifier handler
    let answer := declare artifact fields handler
    ((∃ family, answer = .ok family) ↔ named ∧ spelled ∧ names.Nodup ∧ encodings ≤ wordMax) ∧
    (∀ error, answer = .error error ↔
      (error = .badArtifactName artifact ∧ ¬ named) ∨
      (error = .notIdentifier handler ∧ named ∧ ¬ spelled) ∨
      (∃ index field, error = .repeatedField artifact field ∧ named ∧ spelled ∧ RepeatsFirstAt names index field) ∨
      (error = .tooManyEncodings artifact ∧ named ∧ spelled ∧ names.Nodup ∧ wordMax < encodings)) ∧
    (∀ fields' : List Field, fields.Perm fields' →
      let answer' := declare artifact fields' handler
      wordProduct? (fields.map Field.size) = wordProduct? (fields'.map Field.size) ∧
      ((∃ family, answer = .ok family) ↔ ∃ family, answer' = .ok family) ∧
      (answer = .error (.tooManyEncodings artifact) ↔ answer' = .error (.tooManyEncodings artifact))) ∧
    ∀ family, answer = .ok family →
      family.artifact = artifact ∧ family.fields = fields ∧ family.handler = handler ∧
        wordProduct? (family.fields.map Field.size) = some family.count ∧ family.count = encodings := by
  intro names encodings named spelled answer
  refine ⟨exists_declare_iff, fun error => declare_eq_error_iff, fun fields' perm => ?_, fun family accepted => ?_⟩
  · have sizes : (fields.map Field.size).Perm (fields'.map Field.size) := perm.map Field.size
    have distinct : (fields.map Field.name).Nodup ↔ (fields'.map Field.name).Nodup := (perm.map Field.name).nodup_iff
    refine ⟨wordProduct?_perm Field.pos_of_mem_sizes sizes, ?_, ?_⟩
    · rw [exists_declare_iff, exists_declare_iff, distinct, product_perm sizes]
    · rw [declare_eq_tooManyEncodings_iff, declare_eq_tooManyEncodings_iff, distinct, product_perm sizes]
  · have verdict := declare_verdict artifact fields handler
    rw [show declare artifact fields handler = .ok family from accepted] at verdict
    cases verdict with
    | accepted _ _ _ _ sameArtifact sameFields sameHandler =>
      have counted := family.wordProduct?_eq_count
      refine ⟨sameArtifact, sameFields, sameHandler, counted, ?_⟩
      rw [eq_product_of_wordProduct? counted, sameFields]

/-- Three fields with exactly as many encodings as a word can count. -/
def brim : List Field := [
  ⟨"high", .below 0xFFFFFFFF, by decide +kernel, show (0xFFFFFFFF : UInt32) ≠ 0 by decide⟩,
  ⟨"mid", .below 641, by decide +kernel, show (641 : UInt32) ≠ 0 by decide⟩,
  ⟨"low", .below 6700417, by decide +kernel, show (6700417 : UInt32) ≠ 0 by decide⟩]

/-- A count that fills a word is accepted, and so it is in reverse; a repeated name is told before an overflow. -/
theorem brim_decides :
    (∃ family, declare "CODE.gencpp" brim "code" = .ok family ∧ family.count = wordMax) ∧
      (∃ family, declare "CODE.gencpp" brim.reverse "code" = .ok family) ∧
      declare "CODE.gencpp" (brim ++ brim) "code" = .error (.repeatedField "CODE.gencpp" "high") := by
  have spelled : MatchesIdentifier "code" := (isIdentifier_iff_matches "code").1 (by decide +kernel)
  have encodings : product (brim.map Field.size) = wordMax := by decide +kernel
  obtain ⟨accepts, -, permuted, holds⟩ := declare_decides "CODE.gencpp" brim "code"
  obtain ⟨family, accepted⟩ := accepts.2 ⟨by decide +kernel, spelled, by decide +kernel, Nat.le_of_eq encodings⟩
  obtain ⟨index, repeats⟩ := (firstRepeat_eq_some_iff ((brim ++ brim).map Field.name) "high").1 (by decide +kernel)
  refine ⟨⟨family, accepted, (holds family accepted).2.2.2.2.trans encodings⟩,
    (permuted brim.reverse (List.reverse_perm brim).symm).2.1.1 ⟨family, accepted⟩, ?_⟩
  exact ((declare_decides "CODE.gencpp" (brim ++ brim) "code").2.1 _).2
    (.inr (.inr (.inl ⟨index, "high", rfl, by decide +kernel, spelled, repeats⟩)))

end Family

end DispatchChain
