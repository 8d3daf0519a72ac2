import DispatchChain.Proofs.Separation
import Mathlib.Algebra.Ring.Nat
/-!
# Turns — the families of a catalogue, each with the workspace that it finds

A catalogue takes its families in turn, each in the workspace that the one before it left, be it that the one before
failed or that both write to one file.  So what it answers is told by the turns (`Catalogue.processEach_eq_turns`): the
total if none of them fails, and the failures in their order if some do (`Catalogue.families_in_turn`).
-/
namespace DispatchChain

theorem Workspace.exists_file_of_generate_eq_error {directory : String} {family : Family} {workspace : Workspace}
    {failure : Failure} (fails : (workspace.generate directory family).1 = .error failure) :
    ∃ error, failure = .file (family.artifactPath directory) error := by
  have step := Workspace.generated directory family workspace
  rw [fails] at step
  generalize (workspace.generate directory family).2.files = after at step
  cases step with
  | refused _ => exact ⟨_, rfl⟩
  | unlinked _ _ => exact ⟨_, rfl⟩
  | removed _ => exact ⟨_, rfl⟩

namespace Catalogue

variable {α : Type} {action : Family → Workspace → Except Failure α × Workspace} {directory : String}
  {families : List Family}

/-- The workspace after families were processed one after another. -/
def afterEach (action : Family → Workspace → Except Failure α × Workspace) (families : List Family)
    (workspace : Workspace) : Workspace :=
  families.foldl (fun workspace family => (action family workspace).2) workspace

/-- Each family with the workspace that it finds: the one that the families before it left. -/
def turns (action : Family → Workspace → Except Failure α × Workspace) (families : List Family)
    (workspace : Workspace) : List (Family × Workspace) :=
  families.zip (families.scanl (fun workspace family => (action family workspace).2) workspace)

/-- What an answer has to be reported for a family, if it is a failure. -/
def failed? (family : Family) : Except Failure α → Option ArtifactFailure
  | .error failure => some ⟨family.artifact, failure⟩
  | .ok _ => none

theorem turns_cons (action : Family → Workspace → Except Failure α × Workspace) (family : Family)
    (families : List Family) (workspace : Workspace) :
    turns action (family :: families) workspace =
      (family, workspace) :: turns action families (action family workspace).2 := by
  unfold turns
  rw [List.scanl_cons, List.zip_cons_cons]

theorem map_fst_turns (action : Family → Workspace → Except Failure α × Workspace) (families : List Family)
    (workspace : Workspace) : (turns action families workspace).map Prod.fst = families := by
  unfold turns
  rw [List.map_fst_zip]
  simp

/-- **Families are processed in turn**, whatever is answered on the way. -/
theorem processEach_eq_turns (action : Family → Workspace → Except Failure α × Workspace) :
    ∀ (families : List Family) (workspace : Workspace),
      processEach action families workspace =
        ((turns action families workspace).map fun turn => (turn.1, (action turn.1 turn.2).1),
          afterEach action families workspace)
  | [], _ => rfl
  | family :: families, workspace => by
    rw [processEach, turns_cons]
    simp only [processEach_eq_turns action families, List.map_cons]
    rfl

theorem failures_map {ι : Type} (family : ι → Family) (answer : ι → Except Failure α) (items : List ι) :
    failures (items.map fun item => (family item, answer item)) =
      items.filterMap fun item => failed? (family item) (answer item) := by
  unfold failures
  rw [List.filterMap_map]
  refine List.filterMap_congr fun item _ => ?_
  simp only [Function.comp_apply]
  cases answer item <;> rfl

theorem filterMap_failed?_eq_nil_iff {ι : Type} (family : ι → Family) (answer : ι → Except Failure α) (items : List ι) :
    (items.filterMap fun item => failed? (family item) (answer item)) = [] ↔
      ∀ item ∈ items, ∃ result, answer item = .ok result := by
  rw [List.filterMap_eq_nil_iff]
  refine forall₂_congr fun item _ => ?_
  cases answer item <;> simp [failed?]

/-- All failures, or else what there is to answer if there are none. -/
def settle {β : Type} (failed : List ArtifactFailure) (value : β) : Except (List ArtifactFailure) β :=
  if failed = [] then .ok value else .error failed

theorem settle_eq_ok_iff {β : Type} {failed : List ArtifactFailure} {value answer : β} :
    settle failed value = .ok answer ↔ failed = [] ∧ answer = value := by
  unfold settle
  by_cases none : failed = []
  · rw [if_pos none, Except.ok.injEq, eq_comm]
    exact (and_iff_right none).symm
  · rw [if_neg none]
    simp [none]

theorem settle_eq_error_iff {β : Type} {failed named : List ArtifactFailure} {value : β} :
    settle failed value = .error named ↔ failed ≠ [] ∧ named = failed := by
  unfold settle
  by_cases none : failed = []
  · rw [if_pos none]
    simp [none]
  · rw [if_neg none, Except.error.injEq, eq_comm]
    exact (and_iff_right none).symm

theorem summary_eq_settle (outcomes : List (Family × Except Failure Nat)) :
    summary outcomes = settle (failures outcomes) ((results outcomes).map Prod.snd).sum := by
  rw [summary, total_eq_sum, settle]

theorem results_map {ι : Type} {family : ι → Family} {answer : ι → Except Failure α} {items : List ι} (value : ι → α)
    (succeed : ∀ item ∈ items, answer item = .ok (value item)) :
    results (items.map fun item => (family item, answer item)) = items.map fun item => (family item, value item) := by
  unfold results
  rw [List.filterMap_map, ← List.filterMap_eq_map]
  refine List.filterMap_congr fun item mem => ?_
  simp only [Function.comp_apply, succeed item mem]

theorem exists_failure_iff {ι : Type} {answer : ι → Except Failure α} {items : List ι} :
    (∃ item ∈ items, ∃ failure, answer item = .error failure) ↔
      ¬ ∀ item ∈ items, ∃ result, answer item = .ok result := by
  push Not
  refine exists_congr fun item => and_congr_right fun _ => ?_
  cases answer item <;> simp

/-- **What is answered when a catalogue is generated**: the sum of what its families answered, or their failures. -/
theorem summary_turns {answer : Family × Workspace → Except Failure Nat} {items : List (Family × Workspace)}
    (counted : ∀ item ∈ items, ∀ count, answer item = .ok count → count = item.1.count) :
    (∀ clauses, summary (items.map fun item => (item.1, answer item)) = .ok clauses ↔
      (∀ item ∈ items, ∃ count, answer item = .ok count) ∧
        clauses = (items.map fun item => item.1.count).sum) ∧
    (∀ named, summary (items.map fun item => (item.1, answer item)) = .error named ↔
      (∃ item ∈ items, ∃ failure, answer item = .error failure) ∧
        named = items.filterMap fun item => failed? item.1 (answer item)) := by
  rw [summary_eq_settle, failures_map Prod.fst answer]
  constructor
  · intro clauses
    rw [settle_eq_ok_iff, filterMap_failed?_eq_nil_iff]
    refine and_congr_right fun succeed => ?_
    have counts : ∀ item ∈ items, answer item = .ok item.1.count := by
      intro item mem
      obtain ⟨count, answered⟩ := succeed item mem
      rw [answered, counted item mem count answered]
    rw [results_map (fun item => item.1.count) counts, List.map_map]
    rfl
  · intro named
    rw [settle_eq_error_iff, Ne, filterMap_failed?_eq_nil_iff, exists_failure_iff]

theorem generate_eq_turns (distinct : (families.map Family.artifact).Nodup) (workspace : Workspace) :
    generate directory families workspace =
      (summary ((turns (Workspace.generate directory) families workspace).map fun turn =>
          (turn.1, (turn.2.generate directory turn.1).1)),
        afterEach (Workspace.generate directory) families workspace) := by
  rw [generate_eq distinct, processEach_eq_turns]

/-- **A catalogue answers the sum of its counts, or the failures of those whose turn failed.** -/
theorem generate_turns (distinct : (families.map Family.artifact).Nodup) (workspace : Workspace) :
    let turns := turns (Workspace.generate directory) families workspace
    let generated (turn : Family × Workspace) := (turn.2.generate directory turn.1).1
    (∀ clauses, (generate directory families workspace).1 = .ok clauses ↔
      (∀ turn ∈ turns, ∃ count, generated turn = .ok count) ∧ clauses = (families.map Family.count).sum) ∧
    (∀ failed, (generate directory families workspace).1 = .error failed ↔
      (∃ turn ∈ turns, ∃ failure, generated turn = .error failure) ∧
        failed = turns.filterMap fun turn => failed? turn.1 (generated turn)) := by
  intro turns' generated
  have counted : ∀ turn ∈ turns', ∀ count, generated turn = .ok count → count = turn.1.count := by
    intro turn _ count succeeds
    obtain ⟨_, _, _, _, same, _⟩ := Workspace.files_of_generate succeeds
    exact same
  have counts : (turns'.map fun turn => turn.1.count) = families.map Family.count := by
    rw [← map_fst_turns (Workspace.generate directory) families workspace, List.map_map]
    rfl
  rw [generate_eq_turns distinct, ← counts]
  exact summary_turns counted

theorem stale_answers (directory : String) (files : FileSystem) : ∀ families : List Family,
    stale (answers directory files families) =
      (families.filter fun family => Workspace.checked directory files family = .ok false).map Family.artifact
  | [] => rfl
  | family :: families => by
    have later := stale_answers directory files families
    unfold stale results answers at later ⊢
    rw [List.map_cons, List.filterMap_cons, List.filter_cons]
    rcases Workspace.checked directory files family with failure | _ | _
    · simpa using later
    · simpa using later
    · simpa using later

theorem checked_answers (directory : String) (files : FileSystem) (families : List Family) :
    (∀ names, checked directory files families = .ok names ↔
      (∀ family ∈ families, ∃ fresh, Workspace.checked directory files family = .ok fresh) ∧
        names = (families.filter fun family => Workspace.checked directory files family = .ok false).map
          Family.artifact) ∧
    (∀ named, checked directory files families = .error named ↔
      (∃ family ∈ families, ∃ failure, Workspace.checked directory files family = .error failure) ∧
        named = families.filterMap fun family => failed? family (Workspace.checked directory files family)) := by
  have settles : checked directory files families =
      settle (failures (answers directory files families)) (stale (answers directory files families)) := rfl
  have failed : failures (answers directory files families) =
      families.filterMap fun family => failed? family (Workspace.checked directory files family) :=
    failures_map id (Workspace.checked directory files) families
  rw [settles, failed]
  constructor
  · intro names
    rw [settle_eq_ok_iff, filterMap_failed?_eq_nil_iff]
    rw [stale_answers]
  · intro named
    rw [settle_eq_error_iff, Ne, filterMap_failed?_eq_nil_iff, exists_failure_iff]

/-- **A catalogue takes its families in turn and reports what became of each.**  Every family is generated in the
workspace that the one before it left, whether that one failed or not, and even where artifacts are links to one
another.  If none fails, the answer is the sum of the counts, and otherwise the failures of those that do, in their
order and each with the path of its own artifact.  A check answers the failures of the families whose check fails, or
else the names of those that are out of date, in their order, and changes no file. -/
theorem families_in_turn (directory : String) (families : List Family) (workspace : Workspace)
    (distinct : (families.map Family.artifact).Nodup) :
    let turns := turns (Workspace.generate directory) families workspace
    let generated (turn : Family × Workspace) := (turn.2.generate directory turn.1).1
    let checked (family : Family) := (workspace.check directory family).1
    let run := generate directory families workspace
    let review := check directory families workspace
    turns.map Prod.fst = families ∧
    run.2 = afterEach (Workspace.generate directory) families workspace ∧
    (∀ clauses, run.1 = .ok clauses ↔
      (∀ turn ∈ turns, ∃ count, generated turn = .ok count) ∧ clauses = (families.map Family.count).sum) ∧
    (∀ failed, run.1 = .error failed ↔
      (∃ turn ∈ turns, ∃ failure, generated turn = .error failure) ∧
        failed = turns.filterMap fun turn => failed? turn.1 (generated turn)) ∧
    (∀ turn ∈ turns, ∀ failure, generated turn = .error failure →
      ∃ error, failure = .file (turn.1.artifactPath directory) error) ∧
    (∀ names, review.1 = .ok names ↔
      (∀ family ∈ families, ∃ fresh, checked family = .ok fresh) ∧
        names = (families.filter fun family => checked family = .ok false).map Family.artifact) ∧
    (∀ failed, review.1 = .error failed ↔
      (∃ family ∈ families, ∃ failure, checked family = .error failure) ∧
        failed = families.filterMap fun family => failed? family (checked family)) ∧
    review.2.files = workspace.files := by
  intro turns' generated checked' run review
  have after : run.2 = afterEach (Workspace.generate directory) families workspace := by
    rw [show run = _ from generate_eq_turns distinct workspace]
  have review_eq : review.1 = checked directory workspace.files families := by
    rw [show review = _ from check_eq distinct workspace]
  have answer : checked' = Workspace.checked directory workspace.files := by
    funext family
    show (workspace.check directory family).1 = _
    rw [Workspace.check_eq]
  obtain ⟨totals, failures⟩ := generate_turns distinct workspace
  obtain ⟨names, unreadable⟩ := checked_answers directory workspace.files families
  rw [review_eq, answer]
  exact ⟨map_fst_turns (Workspace.generate directory) families workspace, after, totals, failures,
    fun turn _ failure fails => Workspace.exists_file_of_generate_eq_error fails, names, unreadable,
    files_check directory families workspace⟩

def swapBytes : Family :=
  { swapElsewhere with handler := "arm_swpb", handler_identifier := by decide +kernel }

/-- Where the first artifact is a link to the second, both are generated, and the first is out of date at once. -/
theorem aliased_in_turn :
    let before := Workspace.linked "SWPB_INSTR.gencpp"
    let run := generate "" [.swap, swapBytes] before
    run.1 = .ok 4 ∧ (check "" [.swap, swapBytes] run.2).1 = .ok ["SWP_INSTR.gencpp"] := by
  intro before run
  have distinct : ([.swap, swapBytes].map Family.artifact).Nodup := by decide +kernel
  obtain ⟨-, -, totals, -⟩ := families_in_turn "" [.swap, swapBytes] before distinct
  obtain ⟨-, -, -, -, -, names, -⟩ := families_in_turn "" [.swap, swapBytes] run.2 distinct
  refine ⟨(totals 4).2 ⟨?_, by decide +kernel⟩, (names _).2 ⟨?_, by decide +kernel⟩⟩
  · intro turn mem
    have both : turns (Workspace.generate "") [.swap, swapBytes] before =
        [(.swap, before), (swapBytes, (before.generate "" .swap).2)] := rfl
    rw [both] at mem
    rcases List.mem_cons.1 mem with rfl | mem
    · exact ⟨2, by decide +kernel⟩
    · rw [List.mem_singleton.1 mem]
      exact ⟨2, by decide +kernel⟩
  · intro family mem
    rcases List.mem_cons.1 mem with rfl | mem
    · exact ⟨false, by decide +kernel⟩
    · rw [List.mem_singleton.1 mem]
      exact ⟨true, by decide +kernel⟩

end Catalogue

end DispatchChain
