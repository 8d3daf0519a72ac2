import DispatchChain.Proofs.Declaring
import DispatchChain.Proofs.Logging
/-!
# Checking — which artifacts of a catalogue a check names

A check reads the artifacts one after another and changes none, so the answer for a family does not depend on the
others.  The answer for the catalogue does: what cannot be read is named in any case, what is out of date only if
every artifact can be read (`Catalogue.mem_named_check`).
-/
namespace DispatchChain

variable {directory : String} {files : FileSystem} {family : Family} {families : List Family}

namespace Family

/-- The artifact is there and cannot be read. -/
def Unreadable (directory : String) (files : FileSystem) (family : Family) (error : FileError) : Prop :=
  files.read (family.artifactPath directory) = .error error ∧ error ≠ .notFound

/-- The artifact is missing, or can be read and is not what would be generated now. -/
def OutOfDate (directory : String) (files : FileSystem) (family : Family) : Prop :=
  files.read (family.artifactPath directory) = .error .notFound ∨
    ∃ bytes, files.read (family.artifactPath directory) = .ok bytes ∧ bytes ≠ family.render.toByteArray

end Family

namespace Workspace

/-- The answer to a check, which the files decide. -/
def checked (directory : String) (files : FileSystem) (family : Family) : Except Failure Bool :=
  (check directory family ⟨files, .empty none⟩).1

theorem check_eq (directory : String) (family : Family) (workspace : Workspace) :
    workspace.check directory family =
      (checked directory workspace.files family,
        ⟨workspace.files, workspace.log.noteAll (checkRecords directory workspace.files family)⟩) := by
  have answer : (workspace.check directory family).1 = checked directory workspace.files family := by
    rw [checked, check_fst, check_fst]
  rw [← answer, ← log_check, ← files_check directory family workspace]

theorem checked_eq_false_iff : checked directory files family = .ok false ↔ family.OutOfDate directory files := by
  rw [checked, check_fst, Family.OutOfDate]
  cases files.read (family.artifactPath directory) with
  | ok bytes =>
    rw [Except.ok.injEq, ← Bool.not_eq_true, bytes_beq_iff]
    simp
  | error error => cases error <;> simp

theorem checked_eq_true_iff : checked directory files family = .ok true ↔
    files.read (family.artifactPath directory) = .ok family.render.toByteArray := by
  rw [checked, check_fst]
  cases files.read (family.artifactPath directory) with
  | ok bytes => simp [← bytes_beq_iff]
  | error error => cases error <;> simp

theorem checked_eq_error_iff {failure : Failure} :
    checked directory files family = .error failure ↔
      ∃ error, family.Unreadable directory files error ∧ failure = .file (family.artifactPath directory) error := by
  rw [checked, check_fst]
  unfold Family.Unreadable
  cases files.read (family.artifactPath directory) with
  | ok bytes => simp
  | error error => cases error <;> simp [eq_comm]

end Workspace

namespace Catalogue

open Workspace (checkRecords)

variable {α : Type} {outcomes : List (Family × Except Failure α)}

theorem mem_failures_iff {failed : ArtifactFailure} :
    failed ∈ failures outcomes ↔
      ∃ family, (family, .error failed.failure) ∈ outcomes ∧ failed.artifact = family.artifact := by
  unfold failures
  rw [List.mem_filterMap]
  constructor
  · rintro ⟨⟨family, _ | _⟩, mem, found⟩
    · cases found; exact ⟨family, mem, rfl⟩
    · cases found
  · obtain ⟨artifact, failure⟩ := failed
    rintro ⟨family, mem, rfl⟩
    exact ⟨_, mem, rfl⟩

theorem mem_results_iff {result : α} : (family, result) ∈ results outcomes ↔ (family, .ok result) ∈ outcomes := by
  unfold results
  rw [List.mem_filterMap]
  constructor
  · rintro ⟨⟨family, _ | _⟩, mem, found⟩
    · cases found
    · cases found; exact mem
  · exact fun mem => ⟨_, mem, rfl⟩

def answers (directory : String) (files : FileSystem) (families : List Family) :
    List (Family × Except Failure Bool) :=
  families.map fun family => (family, Workspace.checked directory files family)

theorem mem_answers {answer : Except Failure Bool} :
    (family, answer) ∈ answers directory files families ↔
      family ∈ families ∧ answer = Workspace.checked directory files family := by
  unfold answers
  rw [List.mem_map]
  constructor
  · rintro ⟨family, mem, same⟩
    cases same; exact ⟨mem, rfl⟩
  · rintro ⟨mem, rfl⟩
    exact ⟨family, mem, rfl⟩

/-- **Families are checked apart**: each is answered as if it were alone, and the log has the records of each. -/
theorem processEach_check (directory : String) : ∀ (families : List Family) (workspace : Workspace),
    processEach (Workspace.check directory) families workspace =
      (answers directory workspace.files families,
        ⟨workspace.files, workspace.log.noteAll (families.flatMap (checkRecords directory workspace.files))⟩)
  | [], _ => rfl
  | family :: families, workspace => by
    rw [processEach, Workspace.check_eq]
    simp only [processEach_check directory families, ← Log.noteAll_append]
    rfl

def stale (outcomes : List (Family × Except Failure Bool)) : List String :=
  ((results outcomes).filter fun (_, fresh) => !fresh).map fun (family, _) => family.artifact

theorem mem_stale_iff {artifact : String} :
    artifact ∈ stale (answers directory files families) ↔
      ∃ family ∈ families, family.OutOfDate directory files ∧ artifact = family.artifact := by
  unfold stale
  rw [List.mem_map]
  constructor
  · rintro ⟨⟨family, fresh⟩, mem, rfl⟩
    obtain ⟨mem, found⟩ := List.mem_filter.1 mem
    obtain rfl : fresh = false := by simpa using found
    obtain ⟨mem, answer⟩ := mem_answers.1 (mem_results_iff.1 mem)
    exact ⟨family, mem, Workspace.checked_eq_false_iff.1 answer.symm, rfl⟩
  · rintro ⟨family, mem, old, rfl⟩
    refine ⟨(family, false), List.mem_filter.2 ⟨?_, rfl⟩, rfl⟩
    exact mem_results_iff.2 (mem_answers.2 ⟨mem, (Workspace.checked_eq_false_iff.2 old).symm⟩)

theorem mem_failures_answers_iff {failed : ArtifactFailure} :
    failed ∈ failures (answers directory files families) ↔
      ∃ family ∈ families, ∃ error, family.Unreadable directory files error ∧
        failed = ⟨family.artifact, .file (family.artifactPath directory) error⟩ := by
  rw [mem_failures_iff]
  constructor
  · rintro ⟨family, mem, named⟩
    obtain ⟨mem, answer⟩ := mem_answers.1 mem
    obtain ⟨error, unreadable, failure⟩ := Workspace.checked_eq_error_iff.1 answer.symm
    exact ⟨family, mem, error, unreadable, by rw [← failure, ← named]⟩
  · rintro ⟨family, mem, error, unreadable, rfl⟩
    exact ⟨family, mem_answers.2 ⟨mem, (Workspace.checked_eq_error_iff.2 ⟨error, unreadable, rfl⟩).symm⟩, rfl⟩

theorem failures_answers_eq_nil_iff :
    failures (answers directory files families) = [] ↔
      ∀ family ∈ families, ∀ error, ¬ family.Unreadable directory files error := by
  rw [List.eq_nil_iff_forall_not_mem]
  constructor
  · intro none family mem error unreadable
    exact none _ (mem_failures_answers_iff.2 ⟨family, mem, error, unreadable, rfl⟩)
  · intro readable failed reported
    obtain ⟨family, mem, error, unreadable, -⟩ := mem_failures_answers_iff.1 reported
    exact readable family mem error unreadable

def failureAt (directory : String) (files : FileSystem) (artifact : String) : Option ArtifactFailure :=
  match files.read (Path.join directory artifact) with
  | .ok _ | .error .notFound => none
  | .error error => some ⟨artifact, .file (Path.join directory artifact) error⟩

theorem failures_answers_eq (directory : String) (files : FileSystem) (families : List Family) :
    failures (answers directory files families) =
      (families.map Family.artifact).filterMap (failureAt directory files) := by
  unfold failures answers
  rw [List.filterMap_map, List.filterMap_map]
  refine List.filterMap_congr fun family _ => ?_
  simp only [Function.comp_apply, Workspace.checked, Workspace.check_fst, failureAt, Family.artifactPath]
  cases files.read (Path.join directory family.artifact) with
  | ok bytes => rfl
  | error error => cases error <;> rfl

/-- The answer for a catalogue in which the artifacts are distinct. -/
def checked (directory : String) (files : FileSystem) (families : List Family) :
    Except (List ArtifactFailure) (List String) :=
  if failures (answers directory files families) = [] then .ok (stale (answers directory files families))
  else .error (failures (answers directory files families))

theorem checked_of_readable (readable : ∀ family ∈ families, ∀ error, ¬ family.Unreadable directory files error) :
    checked directory files families = .ok (stale (answers directory files families)) := by
  unfold checked
  rw [if_pos (failures_answers_eq_nil_iff.2 readable)]

theorem checked_of_not_readable
    (unreadable : ¬ ∀ family ∈ families, ∀ error, ¬ family.Unreadable directory files error) :
    checked directory files families = .error (failures (answers directory files families)) := by
  unfold checked
  rw [if_neg (mt failures_answers_eq_nil_iff.1 unreadable)]

/-- **Nothing is to be named exactly if every artifact holds the chain of its family.** -/
theorem checked_eq_ok_nil_iff :
    checked directory files families = .ok [] ↔
      ∀ family ∈ families, files.read (family.artifactPath directory) = .ok family.render.toByteArray := by
  simp only [← Workspace.checked_eq_true_iff]
  by_cases readable : ∀ family ∈ families, ∀ error, ¬ family.Unreadable directory files error
  · rw [checked_of_readable readable, Except.ok.injEq, List.eq_nil_iff_forall_not_mem]
    constructor
    · intro none family mem
      cases answer : Workspace.checked directory files family with
      | error failure =>
        obtain ⟨error, unreadable, -⟩ := Workspace.checked_eq_error_iff.1 answer
        exact absurd unreadable (readable family mem error)
      | ok fresh =>
        cases fresh with
        | true => rfl
        | false => exact absurd (mem_stale_iff.2 ⟨family, mem, Workspace.checked_eq_false_iff.1 answer, rfl⟩) (none _)
    · rintro fresh artifact named
      obtain ⟨family, mem, old, -⟩ := mem_stale_iff.1 named
      have stale := Workspace.checked_eq_false_iff.2 old
      rw [fresh family mem] at stale
      cases stale
  · rw [checked_of_not_readable readable]
    refine iff_of_false nofun fun fresh => readable fun family mem error unreadable => ?_
    have fails := Workspace.checked_eq_error_iff.2 ⟨error, unreadable, rfl⟩
    rw [fresh family mem] at fails
    cases fails

theorem check_eq (distinct : (families.map Family.artifact).Nodup) (workspace : Workspace) :
    check directory families workspace =
      (checked directory workspace.files families,
        ⟨workspace.files, workspace.log.noteAll (families.flatMap (checkRecords directory workspace.files))⟩) := by
  rw [check, process, requireDistinct_eq_ok_iff.2 distinct]
  simp only [processEach_check]
  unfold checked
  split <;> rfl

theorem files_check (directory : String) (families : List Family) (workspace : Workspace) :
    (check directory families workspace).2.files = workspace.files := by
  unfold check process
  cases requireDistinct families with
  | error error => rfl
  | ok _ => simp only [processEach_check]

def named : Except (List ArtifactFailure) (List String) → List String
  | .ok stale => stale
  | .error failures => failures.map ArtifactFailure.artifact

/-- **A check names what cannot be read, and what is out of date if nothing is unreadable.** -/
theorem mem_named_check (distinct : (families.map Family.artifact).Nodup) (workspace : Workspace)
    (mem : family ∈ families) :
    family.artifact ∈ named (check directory families workspace).1 ↔
      (∃ error, family.Unreadable directory workspace.files error) ∨
        family.OutOfDate directory workspace.files ∧
          ∀ other ∈ families, ∀ error, ¬ other.Unreadable directory workspace.files error := by
  -- A name that is reported could be another family's, did not the name tell the family.
  have unique : ∀ other ∈ families, family.artifact = other.artifact → family = other :=
    fun other mem' => List.inj_on_of_nodup_map distinct mem mem'
  rw [check_eq distinct]
  by_cases readable : ∀ other ∈ families, ∀ error, ¬ other.Unreadable directory workspace.files error
  · rw [checked_of_readable readable, named, mem_stale_iff]
    constructor
    · rintro ⟨other, mem', old, same⟩
      obtain rfl := unique other mem' same
      exact .inr ⟨old, readable⟩
    · rintro (⟨error, unreadable⟩ | ⟨old, -⟩)
      · exact absurd unreadable (readable family mem error)
      · exact ⟨family, mem, old, rfl⟩
  · rw [checked_of_not_readable readable, named, List.mem_map]
    constructor
    · rintro ⟨failed, reported, same⟩
      obtain ⟨other, mem', error, unreadable, rfl⟩ := mem_failures_answers_iff.1 reported
      obtain rfl := unique other mem' same.symm
      exact .inl ⟨error, unreadable⟩
    · rintro (⟨error, unreadable⟩ | ⟨-, readable'⟩)
      · exact ⟨_, mem_failures_answers_iff.2 ⟨family, mem, error, unreadable, rfl⟩, rfl⟩
      · exact absurd readable' readable

end Catalogue

end DispatchChain
