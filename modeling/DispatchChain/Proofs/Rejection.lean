import DispatchChain.Proofs.Repetition
import DispatchChain.Proofs.Separation
/-!
# Rejection — a catalogue in which two families share an artifact

Such a catalogue is refused for the first artifact that is declared again (`Catalogue.requireDistinct_eq_error_iff`).
That is found out before any family is processed, so nothing that would be done with one is done
(`Catalogue.process_of_repeats`).
-/
namespace DispatchChain

namespace Catalogue

variable {families : List Family}

/-- **A catalogue is refused for the first artifact that is declared again**, and for nothing else. -/
theorem requireDistinct_eq_error_iff {error : DeclarationError} : requireDistinct families = .error error ↔
    ∃ index artifact, RepeatsFirstAt (families.map Family.artifact) index artifact ∧
      error = .repeatedArtifact artifact := by
  rw [requireDistinct]
  cases found : firstRepeat (families.map Family.artifact) with
  | none =>
    have distinct := (firstRepeat_eq_none_iff _).1 found
    refine iff_of_false (by simp) ?_
    rintro ⟨index, artifact, repeats, -⟩
    exact repeats.not_nodup distinct
  | some artifact =>
    obtain ⟨index, repeats⟩ := (firstRepeat_eq_some_iff _ artifact).1 found
    simp only [Except.error.injEq]
    constructor
    · rintro rfl
      exact ⟨index, artifact, repeats, rfl⟩
    · rintro ⟨other, again, repeats', rfl⟩
      rw [repeats.unique repeats']

def rejection (artifact : String) : List ArtifactFailure := [⟨artifact, .declaration (.repeatedArtifact artifact)⟩]

section

variable {index : Nat} {artifact : String} (repeats : RepeatsFirstAt (families.map Family.artifact) index artifact)

include repeats

theorem process_of_repeats {α : Type} (action : Family → Workspace → Except Failure α × Workspace)
    (workspace : Workspace) : process action families workspace = (.error (rejection artifact), workspace) := by
  rw [process, requireDistinct_eq_error_iff.2 ⟨index, artifact, repeats, rfl⟩]
  rfl

theorem generate_of_repeats (directory : String) (workspace : Workspace) :
    generate directory families workspace = (.error (rejection artifact), workspace) := by
  rw [generate, process_of_repeats repeats]
  rfl

theorem check_of_repeats (directory : String) (workspace : Workspace) :
    check directory families workspace = (.error (rejection artifact), workspace) := by
  rw [check, process_of_repeats repeats]
  rfl

end

/-- **A catalogue that is rejected leaves no trace.**  A catalogue is accepted exactly if its artifacts are distinct,
and otherwise refused for the artifact at the smallest index whose artifact already occurred.  Then there is one
failure, of this artifact and for this reason, whatever the workspace and whatever was to be done with the families;
no file is touched, also none of the families before the repetition, and nothing is logged.  This holds of generating
and of checking alike. -/
theorem rejected_without_trace (families : List Family) :
    let artifacts := families.map Family.artifact
    (requireDistinct families = .ok () ↔ artifacts.Nodup) ∧
    (∀ error, requireDistinct families = .error error ↔
      ∃ index artifact, RepeatsFirstAt artifacts index artifact ∧ error = .repeatedArtifact artifact) ∧
    (¬ artifacts.Nodup → ∃ index artifact, RepeatsFirstAt artifacts index artifact ∧
      let failed : List ArtifactFailure := [⟨artifact, .declaration (.repeatedArtifact artifact)⟩]
      ∀ workspace : Workspace,
        (∀ directory, generate directory families workspace = (.error failed, workspace)) ∧
        (∀ directory, check directory families workspace = (.error failed, workspace)) ∧
        ∀ (α : Type) (action : Family → Workspace → Except Failure α × Workspace),
          process action families workspace = (.error failed, workspace)) := by
  intro artifacts
  refine ⟨requireDistinct_eq_ok_iff, fun error => requireDistinct_eq_error_iff, fun repeated => ?_⟩
  obtain ⟨index, artifact, repeats⟩ := exists_repeatsFirstAt repeated
  refine ⟨index, artifact, repeats, fun workspace => ⟨fun directory => ?_, fun directory => ?_, fun _ action => ?_⟩⟩
  · exact generate_of_repeats repeats directory workspace
  · exact check_of_repeats repeats directory workspace
  · exact process_of_repeats repeats action workspace

/-- Of two artifacts that are declared twice, the one that is declared again first is named, though the other was
declared first; and the link to the device, which generating would remove, stays. -/
theorem nested_without_trace :
    let families := [.swap, swapElsewhere, swapElsewhere, .swap]
    generate "" families (.linked "/dev/full") =
      (.error [⟨"SWPB_INSTR.gencpp", .declaration (.repeatedArtifact "SWPB_INSTR.gencpp")⟩], .linked "/dev/full") := by
  intro families
  obtain ⟨-, -, refuses⟩ := rejected_without_trace families
  obtain ⟨index, artifact, repeats, answer⟩ := refuses (by decide +kernel)
  obtain ⟨index', repeats'⟩ :=
    (firstRepeat_eq_some_iff (families.map Family.artifact) "SWPB_INSTR.gencpp").1 (by decide +kernel)
  obtain rfl := repeats.unique repeats'
  exact (answer (.linked "/dev/full")).1 ""

end Catalogue

end DispatchChain
