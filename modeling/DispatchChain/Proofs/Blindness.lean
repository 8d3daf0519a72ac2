import DispatchChain.Proofs.Checking
/-!
# Blindness — what is done does not depend on the log that is kept

Nothing that is done in a workspace looks at the log: whatever was logged before and however much is kept, the answer
and the files are the same, and the same records are added (`Workspace.Blind`).  This holds of what adds records, of one
thing done after another, and so of a chain that is written, of a generation in each of its endings, and of a catalogue.
-/
namespace DispatchChain

namespace Family

variable {σ ε : Type} [Sink σ ε]

/-- **Writing a chain does not look at the log**, and announces the first of its clauses. -/
theorem exists_writeChain_eq (family : Family) (sink : σ) :
    ∃ result tried written, ∀ log : Log, writeChain family log sink =
      (result, log.noteAll (family.announced ((Encoding.all family.fields).take tried)), written) := by
  obtain ⟨tried, announces, -⟩ := family.exists_log_writeChain sink
  let flushed : Except ε Unit × σ := Sink.writeFlush (linePieces family.lines) sink
  refine ⟨flushed.1.map fun () => family.count, tried, flushed.2, fun log => ?_⟩
  obtain ⟨result, written⟩ := writeChain_eq_writeFlush family log sink
  exact Prod.ext result (Prod.ext (announces log) written)

end Family

namespace Workspace

variable {α β : Type} {kind : Record → Prop} {act : Workspace → α × Workspace}

/-- **The log is not looked at**: from the same files there is the same answer, there are the same files, and the same
records are added, all of some kind. -/
def Blind (kind : Record → Prop) (act : Workspace → α × Workspace) : Prop :=
  ∀ files, ∃ answer after records,
    (∀ log, act ⟨files, log⟩ = (answer, ⟨after, log.noteAll records⟩)) ∧ ∀ record ∈ records, kind record

namespace Blind

theorem notes (records : List Record) (kinds : ∀ record ∈ records, kind record) (answer : α) :
    Blind kind fun workspace => (answer, ⟨workspace.files, workspace.log.noteAll records⟩) :=
  fun files => ⟨answer, files, records, fun _ => rfl, kinds⟩

theorem nothing (answer : α) : Blind kind fun workspace => (answer, workspace) := notes [] (by simp) answer

theorem bind {next : α → Workspace → β × Workspace} (first : Blind kind act)
    (later : ∀ answer, Blind kind (next answer)) :
    Blind kind fun workspace => next (act workspace).1 (act workspace).2 := by
  intro files
  obtain ⟨answer, after, records, does, kinds⟩ := first files
  obtain ⟨answer', after', records', does', kinds'⟩ := later answer after
  refine ⟨answer', after', records ++ records', fun log => ?_, fun record mem => ?_⟩
  · simp only [does, does', Log.noteAll_append]
  · exact (List.mem_append.1 mem).elim (kinds record) (kinds' record)

theorem map (first : Blind kind act) (f : α → β) :
    Blind kind fun workspace => (f (act workspace).1, (act workspace).2) :=
  first.bind fun answer => nothing (f answer)

theorem mono {kind' : Record → Prop} (blind : Blind kind act) (wider : ∀ record, kind record → kind' record) :
    Blind kind' act := by
  intro files
  obtain ⟨answer, after, records, does, kinds⟩ := blind files
  exact ⟨answer, after, records, does, fun record mem => wider record (kinds record mem)⟩

end Blind

/-- Records that are not errors. -/
def Quiet (record : Record) : Prop := record.level ≠ .error

theorem quiet_of_trace {records : List Record} (traces : ∀ record ∈ records, record.level = .trace) :
    ∀ record ∈ records, Quiet record := by
  intro record mem
  unfold Quiet
  simp [traces record mem]

theorem errors_of_quiet {records : List Record} (quiet : ∀ record ∈ records, Quiet record) :
    (records.filter fun record => record.level = .error) = [] := by
  refine List.filter_eq_nil_iff.2 fun record mem => ?_
  rw [decide_eq_true_eq]
  exact quiet record mem

/-- What a generation does once it has written what it can. -/
def finish (path : String) : Except FileError Nat → Workspace → Except Failure Nat × Workspace
  | .ok clauses, workspace => (.ok clauses, workspace.note .info s!"Wrote {clauses} clauses to {path}")
  | .error error, workspace => (.error (.file path error), workspace.discard path)

theorem blind_finish (path : String) : ∀ result, Blind Quiet (finish path result)
  | .ok clauses => fun files =>
    ⟨_, files, [⟨.info, s!"Wrote {clauses} clauses to {path}"⟩], fun _ => rfl, by simp [Quiet]⟩
  | .error error => by
    intro files
    cases removed : files.unlink path with
    | ok after =>
      refine ⟨.error (.file path error), after, [], fun log => ?_, by simp⟩
      simp only [finish, discard, removed]
      rfl
    | error stays =>
      refine ⟨.error (.file path error), files,
        [⟨.warn, s!"Failed to remove partial artifact {path}: {stays.message}"⟩], fun log => ?_, by simp [Quiet]⟩
      simp only [finish, discard, removed]
      rfl

def begun (directory : String) (family : Family) : Record :=
  ⟨.debug, s!"Generating {family.artifactPath directory} for {family.text}"⟩

theorem generate_of_create_error {directory : String} {family : Family} {files : FileSystem} {error : FileError}
    (refused : files.create (family.artifactPath directory) = .error error) (log : Log) :
    generate directory family ⟨files, log⟩ =
      (.error (.file (family.artifactPath directory) error), ⟨files, log.noteAll [begun directory family]⟩) := by
  unfold generate
  simp only [note]
  rw [refused]
  rfl

theorem generate_of_create_ok {directory : String} {family : Family} {files files' : FileSystem} {file : OpenFile}
    (opened : files.create (family.artifactPath directory) = .ok (file, files')) {result : Except FileError Nat}
    {announced : List Record} {written : BufferedFile}
    (wrote : ∀ log, family.writeChain log (BufferedFile.ofFile file) = (result, log.noteAll announced, written))
    (log : Log) :
    generate directory family ⟨files, log⟩ =
      finish (family.artifactPath directory) result
        ⟨files'.store written.file, log.noteAll (begun directory family :: announced)⟩ := by
  unfold generate
  simp only [note]
  rw [opened]
  simp only [wrote]
  cases result <;> rfl

/-- **A generation does not look at the log**, and notes no error, however it ends. -/
theorem blind_generate (directory : String) (family : Family) : Blind Quiet (generate directory family) := by
  intro files
  cases opened : files.create (family.artifactPath directory) with
  | error error => exact ⟨_, files, _, generate_of_create_error opened, by simp [Quiet, begun]⟩
  | ok opening =>
    obtain ⟨result, tried, written, wrote⟩ := family.exists_writeChain_eq (BufferedFile.ofFile opening.1)
    obtain ⟨answer, after, records, does, quiet⟩ :=
      blind_finish (family.artifactPath directory) result (opening.2.store written.file)
    refine ⟨answer, after, begun directory family ::
      family.announced ((Encoding.all family.fields).take tried) ++ records, fun log => ?_, fun record mem => ?_⟩
    · rw [generate_of_create_ok opened wrote, does, ← Log.noteAll_append]
    · rcases List.mem_append.1 mem with mem | mem
      · rcases List.mem_cons.1 mem with rfl | mem
        · simp [Quiet, begun]
        · simp [Quiet, Family.level_of_mem_announced mem]
      · exact quiet record mem

theorem blind_check (directory : String) (family : Family) : Blind Quiet (check directory family) := fun files =>
  ⟨checked directory files family, files, checkRecords directory files family,
    fun log => check_eq directory family ⟨files, log⟩, quiet_of_trace fun _ => level_of_mem_checkRecords⟩

end Workspace

namespace Catalogue

open Workspace (Blind Quiet)

variable {α : Type} {kind : Record → Prop} {action : Family → Workspace → Except Failure α × Workspace}

theorem blind_processEach (blind : ∀ family, Blind kind (action family)) : ∀ families : List Family,
    Blind kind (processEach action families)
  | [] => Blind.nothing []
  | family :: families =>
    (blind family).bind fun outcome =>
      (blind_processEach blind families).map fun outcomes => (family, outcome) :: outcomes

theorem blind_process (blind : ∀ family, Blind kind (action family)) (families : List Family) :
    Blind kind (process action families) := by
  unfold process
  cases requireDistinct families with
  | error error => exact Blind.nothing _
  | ok _ => exact (blind_processEach blind families).map fun outcomes =>
      (if failures outcomes = [] then .ok (results outcomes) else .error (failures outcomes) :
        Except (List ArtifactFailure) (List (Family × α)))

/-- **A catalogue is generated and checked without a look at the log**, and no error is noted. -/
theorem blind_generate (directory : String) (families : List Family) : Blind Quiet (generate directory families) :=
  (blind_process (Workspace.blind_generate directory) families).map _

theorem blind_check (directory : String) (families : List Family) : Blind Quiet (check directory families) :=
  (blind_process (Workspace.blind_check directory) families).map _

end Catalogue

end DispatchChain
