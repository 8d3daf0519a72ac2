import DispatchChain.CommandLine
import DispatchChain.FileSystem.Editing
import DispatchChain.Proofs.Blindness
/-!
# Reporting — what a run that checks says

A run with `--check` reports the answer of the catalogue's check, one error for each artifact that the answer names
(`CommandLine.errors_run_check`).  So a single artifact that cannot be read keeps all that are out of date from being
named.
-/
namespace DispatchChain

namespace CommandLine

open Catalogue (named)
open Workspace (Quiet checkRecords)

variable {options : Options} {families : List Family}

def staleRecord (directory artifact : String) : Record :=
  ⟨.error, s!"{Path.join directory artifact} is missing or out of date"⟩

def failureRecord (failed : ArtifactFailure) : Record :=
  ⟨.error, s!"Failed to process {failed.artifact}: {failed.failure.message}"⟩

/-- The records that report the answer to a check. -/
def report (directory : String) : Except (List ArtifactFailure) (List String) → List Record
  | .ok stale => stale.map (staleRecord directory)
  | .error failures => failures.map failureRecord

/-- The records that report what became of a generation. -/
def account (directory : String) (families : List Family) : Except (List ArtifactFailure) Nat → List Record
  | .ok clauses => [⟨.info, s!"Generated {clauses} clauses across {families.length} fragments in {directory}"⟩]
  | .error failures => failures.map failureRecord

theorem noteStale_eq (directory : String) : ∀ (stale : List String) (workspace : Workspace),
    noteStale directory stale workspace =
      ⟨workspace.files, workspace.log.noteAll (stale.map (staleRecord directory))⟩
  | [], _ => rfl
  | _ :: stale, _ => noteStale_eq directory stale _

theorem noteFailures_eq : ∀ (failures : List ArtifactFailure) (workspace : Workspace),
    noteFailures failures workspace = ⟨workspace.files, workspace.log.noteAll (failures.map failureRecord)⟩
  | [], _ => rfl
  | _ :: failures, _ => noteFailures_eq failures _

/-- **A run that checks does what the catalogue's check does**, and reports its answer. -/
theorem runCheck_eq (directory : String) (families : List Family) (workspace : Workspace) :
    runCheck directory families workspace =
      let checked := Catalogue.check directory families workspace
      (decide (checked.1 = .ok []), ⟨checked.2.files, checked.2.log.noteAll (report directory checked.1)⟩) := by
  unfold runCheck
  rcases Catalogue.check directory families workspace with ⟨failures | stale, checked⟩
  · simp only [noteFailures_eq]
    rfl
  · simp only [noteStale_eq]
    cases stale <;> rfl

/-- **A run that generates does what the catalogue's generation does**, and reports its answer. -/
theorem runGenerate_eq (directory : String) (families : List Family) (workspace : Workspace) :
    runGenerate directory families workspace =
      let generated := Catalogue.generate directory families workspace
      (generated.1.isOk, ⟨generated.2.files, generated.2.log.noteAll (account directory families generated.1)⟩) := by
  unfold runGenerate
  rcases Catalogue.generate directory families workspace with ⟨failures | clauses, generated⟩
  · simp only [noteFailures_eq]
    rfl
  · rfl

theorem exists_judge_of_readFrom (awaited : Option Valued) (uses : Uses) (arguments : List String)
    (asked : readFrom awaited uses arguments = .run options) : ∃ read : Uses, read.judge = .run options := by
  fun_induction readFrom awaited uses arguments <;> grind

theorem list_eq_false_of_check {arguments : List String} (asked : read arguments = .run options)
    (checks : options.check = true) : options.list = false := by
  obtain ⟨uses, judged⟩ := exists_judge_of_readFrom _ _ _ asked
  unfold Uses.judge at judged
  split at judged
  · cases judged
  split at judged
  · cases judged
  · rename_i exclusive
    split at judged
    · cases judged
    · cases judged
      simp only [decide_eq_true_eq] at checks
      simpa [checks] using exclusive

theorem level_of_mem_report {directory : String} {answer : Except (List ArtifactFailure) (List String)}
    {record : Record} (mem : record ∈ report directory answer) : record.level = .error := by
  cases answer with
  | ok stale =>
    obtain ⟨artifact, -, rfl⟩ := List.mem_map.1 mem
    rfl
  | error failures =>
    obtain ⟨failed, -, rfl⟩ := List.mem_map.1 mem
    rfl

def launched (options : Options) : List Record :=
  [⟨.info, "Launching dispatchgen from command line now."⟩, ⟨.debug, s!"Arguments: {options.text}"⟩]

theorem runOptions_of_list (lists : options.list = true) (workspace : Workspace) :
    runOptions (.ok families) options workspace =
      ((true, String.join (families.map listing)), ⟨workspace.files, workspace.log.noteAll (launched options)⟩) := by
  unfold runOptions
  simp only [lists, ↓reduceIte]
  rfl

theorem runOptions_of_check (checks : options.check = true) (lists : options.list = false) (workspace : Workspace) :
    runOptions (.ok families) options workspace =
      let done := runCheck options.directory families ⟨workspace.files, workspace.log.noteAll (launched options)⟩
      ((done.1, ""), done.2) := by
  unfold runOptions
  simp only [lists, checks, Bool.false_eq_true, ↓reduceIte]
  rfl

theorem runOptions_of_generate (generates : options.check = false) (lists : options.list = false)
    (workspace : Workspace) :
    runOptions (.ok families) options workspace =
      let done := runGenerate options.directory families ⟨workspace.files, workspace.log.noteAll (launched options)⟩
      ((done.1, ""), done.2) := by
  unfold runOptions
  simp only [lists, generates, Bool.false_eq_true, ↓reduceIte]
  rfl

theorem log_runOptions_check (distinct : (families.map Family.artifact).Nodup) (checks : options.check = true)
    (lists : options.list = false) (workspace : Workspace) :
    (runOptions (.ok families) options workspace).2.log =
      workspace.log.noteAll (launched options ++ families.flatMap (checkRecords options.directory workspace.files) ++
        report options.directory (Catalogue.check options.directory families workspace).1) := by
  rw [runOptions_of_check checks lists, runCheck_eq, Catalogue.check_eq distinct, Catalogue.check_eq distinct,
    Log.noteAll_append, Log.noteAll_append]

theorem quiet_launched (options : Options) : ∀ record ∈ launched options, Quiet record := by
  simp [launched, Quiet]

theorem quiet_checkRecords (directory : String) (files : FileSystem) :
    ∀ record ∈ launched options ++ families.flatMap (checkRecords directory files), Quiet record := by
  intro record mem
  rcases List.mem_append.1 mem with mem | mem
  · exact quiet_launched options record mem
  · obtain ⟨family, -, mem⟩ := List.mem_flatMap.1 mem
    simp [Quiet, Workspace.level_of_mem_checkRecords mem]

theorem errors_report (directory : String) (answer : Except (List ArtifactFailure) (List String)) :
    ((report directory answer).filter fun record => record.level = .error) = report directory answer :=
  List.filter_eq_self.2 fun _ mem => by simp [level_of_mem_report mem]

theorem runWith_eq (logger : Logger) (catalogue : Except DeclarationError (List Family)) {arguments : List String}
    (asked : read arguments = .run options) (filter : Option String) (files : FileSystem) :
    runWith logger catalogue arguments filter files =
      let done := runOptions catalogue options ⟨files, .empty (logger.finest (filter.getD options.level.name))⟩
      (⟨if done.1.1 then 0 else 1, done.1.2,
        done.2.log.records.filter (logger.keeps (filter.getD options.level.name))⟩, done.2.files) := by
  unfold runWith
  simp only [asked]

/-- A logger keeps of the records that are added to its log what it would keep of them all. -/
theorem kept_noteAll (logger : Logger) (text : String) (records : List Record) :
    ((Log.empty (logger.finest text)).noteAll records).records.toList.filter (logger.keeps text) =
      records.filter (logger.keeps text) := by
  have started : (Log.empty (logger.finest text)).records.toList = [] := rfl
  rw [Log.toList_records_noteAll, started, List.nil_append, logger.filter_admitted]

/-- Unless the environment sets a filter, the level asked for decides, and every level admits errors. -/
theorem admitsErrors_getD {logger : Logger} {filter : Option String}
    (admitted : ∀ text, filter = some text → logger.AdmitsErrors text) (level : Level) :
    logger.AdmitsErrors (filter.getD level.name) := by
  cases filter with
  | none => exact Logger.admitsErrors_of_ofName? (Level.ofName?_name level)
  | some text => exact admitted text rfl

/-- **The errors of a run that checks are those that report the answer of the check**, in its order, as far as the
filter keeps them. -/
theorem errors_runUnder_check (declared : Catalogue.armThumb = .ok families) (logger : Logger)
    {arguments : List String} (asked : read arguments = .run options) (checks : options.check = true)
    (filter : Option String) (files : FileSystem) :
    ((runUnder logger arguments filter files).1.records.toList.filter fun record => record.level = .error) =
      (report options.directory (Catalogue.checked options.directory files families)).filter
        (logger.keeps (filter.getD options.level.name)) := by
  have distinct := (Catalogue.declare_eq_ok_iff.1 declared).2
  have lists := list_eq_false_of_check asked checks
  rw [runUnder, declared, runWith_eq logger _ asked, Array.toList_filter, log_runOptions_check distinct checks lists,
    kept_noteAll, List.filter_comm, List.filter_append,
    Workspace.errors_of_quiet (quiet_checkRecords options.directory files), List.nil_append, errors_report,
    Catalogue.check_eq distinct]

/-- **If the filter admits errors, a run that checks reports all.** -/
theorem errors_run_check (declared : Catalogue.armThumb = .ok families) {logger : Logger} {arguments : List String}
    {filter : Option String} (asked : read arguments = .run options) (checks : options.check = true)
    (admitted : ∀ text, filter = some text → logger.AdmitsErrors text) (files : FileSystem) :
    ((runUnder logger arguments filter files).1.records.toList.filter fun record => record.level = .error) =
      report options.directory (Catalogue.check options.directory families ⟨files, .empty none⟩).1 := by
  have distinct := (Catalogue.declare_eq_ok_iff.1 declared).2
  rw [errors_runUnder_check declared logger asked checks, Catalogue.check_eq distinct]
  exact Logger.filter_errors (admitsErrors_getD admitted options.level) fun _ => level_of_mem_report

theorem mem_report_of_unreadable {family : Family} {directory : String} {files : FileSystem} {error : FileError}
    (distinct : (families.map Family.artifact).Nodup) (mem : family ∈ families)
    (unreadable : family.Unreadable directory files error) :
    failureRecord ⟨family.artifact, .file (family.artifactPath directory) error⟩ ∈
      report directory (Catalogue.check directory families ⟨files, .empty none⟩).1 := by
  have reported : ⟨family.artifact, .file (family.artifactPath directory) error⟩ ∈
      Catalogue.failures (Catalogue.answers directory files families) :=
    Catalogue.mem_failures_answers_iff.2 ⟨family, mem, error, unreadable, rfl⟩
  rw [Catalogue.check_eq distinct,
    Catalogue.checked_of_not_readable fun readable => readable family mem error unreadable]
  exact List.mem_map_of_mem reported

theorem mem_report_of_outOfDate {family : Family} {directory : String} {files : FileSystem}
    (distinct : (families.map Family.artifact).Nodup) (mem : family ∈ families)
    (old : family.OutOfDate directory files)
    (readable : ∀ other ∈ families, ∀ error, ¬ other.Unreadable directory files error) :
    staleRecord directory family.artifact ∈
      report directory (Catalogue.check directory families ⟨files, .empty none⟩).1 := by
  have stale : family.artifact ∈ Catalogue.stale (Catalogue.answers directory files families) :=
    Catalogue.mem_stale_iff.2 ⟨family, mem, old, rfl⟩
  rw [Catalogue.check_eq distinct, Catalogue.checked_of_readable readable]
  exact List.mem_map_of_mem stale

/-- **What a check names, and what a run with `--check` says**: each artifact that cannot be read, and each that is
out of date if there is no artifact that cannot be read. -/
theorem check_reports (files : FileSystem) :
    (∀ (directory : String) (families : List Family) (log : Log), (families.map Family.artifact).Nodup →
      ∀ family ∈ families,
        (family.artifact ∈ named (Catalogue.check directory families ⟨files, log⟩).1 ↔
          (∃ error, family.Unreadable directory files error) ∨
            family.OutOfDate directory files ∧
              ∀ other ∈ families, ∀ error, ¬ other.Unreadable directory files error)) ∧
    ∃ families, Catalogue.armThumb = .ok families ∧ (families.map Family.artifact).Nodup ∧
      ∀ (logger : Logger) (arguments : List String) (options : Options) (filter : Option String),
        read arguments = .run options → options.check = true →
        (∀ text, filter = some text → logger.AdmitsErrors text) →
        let done := runUnder logger arguments filter files
        let errors := done.1.records.toList.filter fun record => record.level = .error
        errors = report options.directory (Catalogue.check options.directory families ⟨files, .empty none⟩).1 ∧
        ∀ family ∈ families,
          (∀ error, family.Unreadable options.directory files error →
            failureRecord ⟨family.artifact, .file (family.artifactPath options.directory) error⟩ ∈ errors) ∧
          (family.OutOfDate options.directory files →
            (∀ other ∈ families, ∀ error, ¬ other.Unreadable options.directory files error) →
            staleRecord options.directory family.artifact ∈ errors) := by
  constructor
  · intro directory families log distinct family mem
    exact Catalogue.mem_named_check distinct ⟨files, log⟩ mem
  obtain ⟨families, declared⟩ := Catalogue.exists_armThumb
  have distinct := (Catalogue.declare_eq_ok_iff.1 declared).2
  refine ⟨families, declared, distinct, ?_⟩
  intro logger arguments options filter asked checks admitted done errors
  have reported : errors = _ := errors_run_check declared asked checks admitted files
  refine ⟨reported, fun family mem => ⟨?_, ?_⟩⟩
  · intro error unreadable
    rw [reported]
    exact mem_report_of_unreadable distinct mem unreadable
  · intro old readable
    rw [reported]
    exact mem_report_of_outOfDate distinct mem old readable

/-- An output directory in which a directory stands for the first artifact and the others are missing. -/
def obstructed : FileSystem :=
  (FileSystem.scratch.put ["scratch", "out"] .directory).put ["scratch", "out", "BRANCH_INSTR.gencpp"] .directory

/-- Alone, a missing artifact is named by a check; and a run names the one that a directory stands for. -/
theorem obstructed_reports :
    "SWP_INSTR.gencpp" ∈ named (Catalogue.check "out" [.swap] ⟨obstructed, .empty none⟩).1 ∧
      failureRecord ⟨"BRANCH_INSTR.gencpp", .file "out/BRANCH_INSTR.gencpp" .isDirectory⟩ ∈
        (run ["--check", "-o", "out"] none obstructed).1.records.toList.filter fun record => record.level = .error := by
  obtain ⟨named_iff, families, declared, -, reports⟩ := check_reports obstructed
  constructor
  · have missing : obstructed.read (Family.swap.artifactPath "out") = .error .notFound := by decide +kernel
    refine (named_iff "out" [.swap] (.empty none) (by simp) .swap (by simp)).2 (.inr ⟨.inl missing, ?_⟩)
    rintro other mem error ⟨read, present⟩
    rw [List.mem_singleton.1 mem, missing] at read
    exact present (Except.error.inj read).symm
  · obtain ⟨branch, mem, alone⟩ :=
      Catalogue.exists_mem_of_declare declared (List.mem_append_left _ List.mem_cons_self)
    have artifact : branch.artifact = "BRANCH_INSTR.gencpp" := FamilyDeclaration.artifact_of_declare alone
    have path : branch.artifactPath "out" = "out/BRANCH_INSTR.gencpp" := by
      rw [Family.artifactPath, artifact]; decide +kernel
    have asked : read ["--check", "-o", "out"] = .run ⟨.warn, "out", true, false⟩ := by decide +kernel
    have said := (reports .directives _ _ none asked rfl fun _ set => by cases set).2 branch mem
    have unreadable : branch.Unreadable "out" obstructed .isDirectory := by
      refine ⟨?_, by simp⟩
      rw [path]; decide +kernel
    have line := said.1 .isDirectory unreadable
    rw [artifact, path] at line
    rw [run]
    exact line

/-- **One artifact that cannot be read hides all that are missing**: neither the check nor the run names them. -/
theorem unreadable_hides :
    ∃ families, Catalogue.armThumb = .ok families ∧ (families.map Family.artifact).Nodup ∧
      (∀ family ∈ families, ∀ device,
        obstructed.locate? .openExisting (family.artifactPath "out") ≠ .ok (.fullDevice device)) ∧
      .swap ∈ families ∧ Family.swap.OutOfDate "out" obstructed ∧
      named (Catalogue.check "out" families ⟨obstructed, .empty none⟩).1 = ["BRANCH_INSTR.gencpp"] ∧
      ((run ["--check", "-o", "out"] none obstructed).1.records.toList.filter fun record => record.level = .error) =
        [⟨.error, "Failed to process BRANCH_INSTR.gencpp: out/BRANCH_INSTR.gencpp: Is a directory (os error 21)"⟩] := by
  obtain ⟨families, declared⟩ := Catalogue.exists_armThumb
  have distinct := (Catalogue.declare_eq_ok_iff.1 declared).2
  have fails : Catalogue.failures (Catalogue.answers "out" obstructed families) =
      [⟨"BRANCH_INSTR.gencpp", .file "out/BRANCH_INSTR.gencpp" .isDirectory⟩] := by
    rw [Catalogue.failures_answers_eq, Catalogue.map_artifact_of_declare declared]
    decide +kernel
  have answer : (Catalogue.check "out" families ⟨obstructed, .empty none⟩).1 =
      .error [⟨"BRANCH_INSTR.gencpp", .file "out/BRANCH_INSTR.gencpp" .isDirectory⟩] := by
    rw [Catalogue.check_eq distinct]
    unfold Catalogue.checked
    rw [fails]
    rfl
  have swap : .swap ∈ families := by
    have listed : ⟨"SWP_INSTR.gencpp", [.below "byteword" 2], "arm_swp"⟩ ∈ Catalogue.armFamilies := by
      simp [Catalogue.armFamilies]
    obtain ⟨family, mem, alone⟩ := Catalogue.exists_mem_of_declare declared (List.mem_append_left _ listed)
    have same : FamilyDeclaration.declare ⟨"SWP_INSTR.gencpp", [.below "byteword" 2], "arm_swp"⟩ = .ok .swap := by
      decide +kernel
    rw [same] at alone
    cases alone
    exact mem
  refine ⟨families, declared, distinct, ?_, swap, .inl (by decide +kernel), ?_, ?_⟩
  · intro family mem device located
    have unreadable : family.Unreadable "out" obstructed .outOfMemory := by
      refine ⟨?_, by simp⟩
      unfold FileSystem.read
      rw [located]
    have reported := Catalogue.mem_failures_answers_iff.2 ⟨family, mem, _, unreadable, rfl⟩
    rw [fails] at reported
    simp at reported
  · rw [answer]
    rfl
  · have asked : read ["--check", "-o", "out"] = .run ⟨.warn, "out", true, false⟩ := by decide +kernel
    rw [run, errors_run_check declared asked rfl (fun _ set => by cases set), answer]
    decide +kernel

end CommandLine

end DispatchChain
