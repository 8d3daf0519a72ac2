import DispatchChain.Proofs.Generation
/-!
# Logging — what a log keeps of records added in order

Of records added one after another a log keeps those of the levels that it admits (`Log.toList_records_noteAll`), and
what it admits never changes.  A chain announces the first of its clauses, each of them if it is written to its end, and
a check announces those of the chain that it compares with.
-/
namespace DispatchChain

namespace Log

/-- Adds records in order, as far as their levels are kept. -/
def noteAll (log : Log) (records : List Record) : Log :=
  records.foldl (fun log record => log.note record.level record.message) log

theorem noteAll_cons (log : Log) (record : Record) (records : List Record) :
    log.noteAll (record :: records) = (log.note record.level record.message).noteAll records := rfl

theorem noteAll_append (log : Log) (records more : List Record) :
    log.noteAll (records ++ more) = (log.noteAll records).noteAll more := List.foldl_append

theorem admits_note (log : Log) (level : Level) (message : String) : (log.note level message).admits = log.admits := by
  unfold admits
  rw [finest_note]

/-- **A log keeps the records of the levels that it admits**, after those that it has and in order. -/
theorem toList_records_noteAll : ∀ (records : List Record) (log : Log),
    (log.noteAll records).records.toList =
      log.records.toList ++ records.filter fun record => log.admits record.level
  | [], log => (List.append_nil _).symm
  | record :: records, log => by
    rw [noteAll_cons, toList_records_noteAll records, toList_records_note, admits_note, List.append_assoc,
      List.filter_cons]
    cases log.admits record.level <;> rfl

theorem toList_records_noteAll_of_trace {log : Log} (all : log.finest = some .trace) (records : List Record) :
    (log.noteAll records).records.toList = log.records.toList ++ records := by
  have kept : ∀ record ∈ records, log.admits record.level = true := by
    intro record _
    rw [admits, all]
    cases record.level <;> rfl
  rw [toList_records_noteAll, List.filter_eq_self.2 kept]

end Log

namespace Family

variable {σ ε : Type} [Sink σ ε]

/-- The records that announce the clauses of the chain. -/
def announced (family : Family) (encodings : List Encoding) : List Record :=
  encodings.map fun encoding => ⟨.trace, family.traceText encoding⟩

theorem level_of_mem_announced {family : Family} {encodings : List Encoding} {record : Record}
    (mem : record ∈ family.announced encodings) : record.level = .trace := by
  obtain ⟨encoding, -, rfl⟩ := List.mem_map.1 mem
  rfl

/-- **However far the writing of clauses goes**, it announces the first of them, and as many whatever the log; all of
them if it goes to the end. -/
theorem exists_log_writeEach (family : Family) : ∀ (encodings : List Encoding) (sink : σ),
    ∃ tried,
      (∀ (written : Nat) (log : Log),
        (writeEach family encodings written log sink).2.1 = log.noteAll (family.announced (encodings.take tried))) ∧
      ∀ (clauses written : Nat) (log : Log), (writeEach family encodings written log sink).1 = .ok clauses →
        encodings.take tried = encodings
  | [], _ => ⟨0, fun _ _ => rfl, fun _ _ _ _ => rfl⟩
  | encoding :: encodings, sink => by
    cases taken : Sink.writeLine (family.clauseText encoding) sink with
    | mk answer sink' =>
      cases answer with
      | error error =>
        refine ⟨1, fun written log => ?_, fun clauses written log succeeds => ?_⟩
        · rw [writeEach, taken]; rfl
        · rw [writeEach, taken] at succeeds; cases succeeds
      | ok _ =>
        obtain ⟨tried, later, whole⟩ := exists_log_writeEach family encodings sink'
        refine ⟨tried + 1, fun written log => ?_, fun clauses written log succeeds => ?_⟩
        · rw [writeEach, taken]
          exact later (written + 1) _
        · rw [writeEach, taken] at succeeds
          rw [List.take_succ_cons, whole clauses (written + 1) _ succeeds]

/-- **Once the opening is taken, what a chain announces is what writing its clauses does.** -/
theorem log_writeChain_of_opened {family : Family} {sink sink₁ : σ}
    (opened : Sink.writeLine Clause.opening sink = (.ok (), sink₁)) (log : Log) :
    (writeChain family log sink).2.1 = (writeEach family (Encoding.all family.fields) 0 log sink₁).2.1 := by
  rw [writeChain, opened]
  simp only [writeClauses_odometer]
  rcases writeEach family (Encoding.all family.fields) 0 log sink₁ with ⟨_ | _, log', sink₂⟩
  · rfl
  · simp only
    rcases Sink.flush sink₂ with ⟨_ | _, _⟩ <;> rfl

/-- **A chain announces the first of its clauses**, and each if it is written to its end. -/
theorem exists_log_writeChain (family : Family) (sink : σ) :
    ∃ tried,
      (∀ log : Log, (writeChain family log sink).2.1 =
        log.noteAll (family.announced ((Encoding.all family.fields).take tried))) ∧
      ∀ (clauses : Nat) (log : Log), (writeChain family log sink).1 = .ok clauses →
        (Encoding.all family.fields).take tried = Encoding.all family.fields := by
  cases opened : Sink.writeLine Clause.opening sink with
  | mk answer sink₁ =>
    cases answer with
    | error error =>
      refine ⟨0, fun log => ?_, fun clauses log succeeds => ?_⟩
      · rw [writeChain, opened]; rfl
      · rw [writeChain, opened] at succeeds; cases succeeds
    | ok _ =>
      obtain ⟨tried, each, whole⟩ := exists_log_writeEach family (Encoding.all family.fields) sink₁
      refine ⟨tried, fun log => (log_writeChain_of_opened opened log).trans (each 0 log),
        fun clauses log succeeds => ?_⟩
      rw [writeChain, opened] at succeeds
      simp only [writeClauses_odometer] at succeeds
      have finished := fun clauses' => whole clauses' 0 log
      generalize writeEach family (Encoding.all family.fields) 0 log sink₁ = written at succeeds finished
      rcases written with ⟨_ | _, _⟩
      · cases succeeds
      · exact finished _ rfl

/-- **A sink that takes the whole chain gets each clause announced.** -/
theorem writeChain_of_taken {family : Family} {sink sink' : σ}
    (taken : Sink.writeFlush (linePieces family.lines) sink = (.ok (), sink')) (log : Log) :
    writeChain family log sink =
      (.ok family.count, log.noteAll (family.announced (Encoding.all family.fields)), sink') := by
  obtain ⟨result, written⟩ := writeChain_eq_writeFlush family log sink
  rw [taken] at result written
  obtain ⟨tried, announces, whole⟩ := family.exists_log_writeChain sink
  have announced := announces log
  rw [whole _ log result] at announced
  exact Prod.ext result (Prod.ext announced written)

theorem log_renderLogged (family : Family) (log : Log) :
    (family.renderLogged log).2 = log.noteAll (family.announced (Encoding.all family.fields)) := by
  have taken : Sink.writeFlush (linePieces family.lines) Memory.empty =
      (.ok (), ⟨Memory.empty.text ++ String.join (linePieces family.lines)⟩) := by
    rw [Sink.writeFlush, Memory.writeAll_eq]; rfl
  rw [renderLogged, writeChain_of_taken taken log]

end Family

namespace Workspace

variable {directory : String} {family : Family}

/-- The records of a check: an artifact that can be read is compared with the chain. -/
def checkRecords (directory : String) (files : FileSystem) (family : Family) : List Record :=
  match files.read (family.artifactPath directory) with
  | .ok _ => family.announced (Encoding.all family.fields)
  | .error _ => []

theorem log_check (directory : String) (family : Family) (workspace : Workspace) :
    (workspace.check directory family).2.log =
      workspace.log.noteAll (checkRecords directory workspace.files family) := by
  unfold check checkRecords
  simp only
  cases workspace.files.read (family.artifactPath directory) with
  | ok bytes => exact family.log_renderLogged workspace.log
  | error error => cases error <;> rfl

theorem level_of_mem_checkRecords {files : FileSystem} {record : Record}
    (mem : record ∈ checkRecords directory files family) : record.level = .trace := by
  unfold checkRecords at mem
  split at mem
  · exact Family.level_of_mem_announced mem
  · cases mem

end Workspace

end DispatchChain
