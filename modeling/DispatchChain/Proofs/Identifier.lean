import DispatchChain.Identifier
import Mathlib.Logic.Basic
/-!
# Identifier — the pattern that identifiers match

Identifiers are the texts that match `[A-Za-z_][A-Za-z0-9_]*` (`isIdentifier_iff_matches`).  The ranges of the
pattern are ranges of code points, so no letter or digit beyond ASCII is in them.
-/
namespace DispatchChain

/-- A character in one of some ranges, both ends included, as a pattern lists them in brackets. -/
def InClass (ranges : List (Char × Char)) (c : Char) : Prop := ∃ range ∈ ranges, range.1 ≤ c ∧ c ≤ range.2

/-- A text that matches `[A-Za-z_][A-Za-z0-9_]*`. -/
def MatchesIdentifier (text : String) : Prop :=
  ∃ first rest, text.toList = first :: rest ∧ InClass [('A', 'Z'), ('a', 'z'), ('_', '_')] first ∧
    ∀ c ∈ rest, InClass [('A', 'Z'), ('a', 'z'), ('0', '9'), ('_', '_')] c

theorem inClass_cons_cons_iff {low high : Char} {next : Char × Char} {ranges : List (Char × Char)} {c : Char} :
    InClass ((low, high) :: next :: ranges) c ↔ low ≤ c ∧ c ≤ high ∨ InClass (next :: ranges) c := by
  simp only [InClass, List.mem_cons, exists_eq_or_imp]

theorem inClass_underscore_iff {c : Char} : InClass [('_', '_')] c ↔ c = '_' := by
  simp only [InClass, List.mem_singleton, exists_eq_left]
  exact ⟨fun between => Char.le_antisymm between.2 between.1, fun same => same ▸ ⟨Char.le_refl _, Char.le_refl _⟩⟩

theorem startsIdentifier_iff_inClass {c : Char} :
    StartsIdentifier c ↔ InClass [('A', 'Z'), ('a', 'z'), ('_', '_')] c := by
  simp only [inClass_cons_cons_iff, inClass_underscore_iff, ← or_assoc]
  refine or_congr_left ?_
  unfold Char.isAlpha Char.isUpper Char.isLower
  simp [Char.le_def]

theorem continuesIdentifier_iff_inClass {c : Char} :
    ContinuesIdentifier c ↔ InClass [('A', 'Z'), ('a', 'z'), ('0', '9'), ('_', '_')] c := by
  simp only [inClass_cons_cons_iff, inClass_underscore_iff, ← or_assoc]
  refine or_congr_left ?_
  unfold Char.isAlphanum Char.isAlpha Char.isUpper Char.isLower Char.isDigit
  simp [Char.le_def]

/-- **Identifiers are the texts that match the pattern.** -/
theorem isIdentifier_iff_matches (text : String) : IsIdentifier text ↔ MatchesIdentifier text := by
  unfold IsIdentifier MatchesIdentifier
  cases spelling : text.toList with
  | nil => exact iff_of_false id nofun
  | cons c cs =>
    simp only [SpellsIdentifier, startsIdentifier_iff_inClass, continuesIdentifier_iff_inClass]
    constructor
    · exact fun ⟨starts, continues⟩ => ⟨c, cs, rfl, starts, continues⟩
    · rintro ⟨_, _, same, starts, continues⟩
      cases same
      exact ⟨starts, continues⟩

end DispatchChain
