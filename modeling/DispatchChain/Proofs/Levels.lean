import DispatchChain.Proofs.Blindness
import DispatchChain.Proofs.Reporting
import DispatchChain.Proofs.Runs
/-!
# Levels — runs that keep more or less of their log

Calls on a directory and runs of the program do not look at the log either (`Session.blind_performAll`,
`CommandLine.blind_runOptions`).  So a run that keeps less detail does the same as one that keeps more, and its log is
what its level admits of the other's (`CommandLine.levels_do_not_interfere`).
-/
namespace DispatchChain

open Workspace (Blind Quiet)

namespace Log

/-- What a log that keeps up to a level has of some records. -/
def kept (finest : Option Level) (records : List Record) : List Record :=
  records.filter fun record => (Log.empty finest).admits record.level

theorem toList_records_noteAll_empty (finest : Option Level) (records : List Record) :
    ((Log.empty finest).noteAll records).records.toList = kept finest records := by
  rw [toList_records_noteAll, show (Log.empty finest).records.toList = [] from rfl, List.nil_append, kept]

/-- **What less detail keeps can be told from what more detail keeps.** -/
theorem kept_kept {finest finest' : Option Level} (coarser : depth finest ≤ depth finest') (records : List Record) :
    kept finest (kept finest' records) = kept finest records := by
  unfold kept
  rw [List.filter_filter]
  refine List.filter_congr fun record _ => ?_
  rw [Bool.eq_iff_iff, Bool.and_eq_true, admits_empty_iff, admits_empty_iff]
  omega

theorem kept_none (records : List Record) : kept none records = [] := List.filter_false records

end Log

namespace Session

theorem blind_perform (directory : String) : ∀ call : Call, Blind Quiet (perform directory call)
  | .generate family => by
    rw [funext (perform_generate directory family)]
    exact (Workspace.blind_generate directory family).map (answered .generated .failed)
  | .check family => by
    rw [funext (perform_check directory family)]
    exact (Workspace.blind_check directory family).map (answered .checked .failed)
  | .generateCatalogue families => by
    rw [funext (perform_generateCatalogue directory families)]
    exact (Catalogue.blind_generate directory families).map (answered .generated .failures)
  | .checkCatalogue families => by
    rw [funext (perform_checkCatalogue directory families)]
    exact (Catalogue.blind_check directory families).map (answered .stale .failures)

theorem blind_performAll (directory : String) : ∀ calls : List Call, Blind Quiet (performAll directory calls)
  | [] => Blind.nothing []
  | call :: calls =>
    (blind_perform directory call).bind fun answer =>
      (blind_performAll directory calls).map fun answers => answer :: answers

end Session

namespace CommandLine

theorem blind_runCheck (directory : String) (families : List Family) :
    Blind (fun _ => True) (runCheck directory families) := by
  rw [funext (runCheck_eq directory families)]
  exact ((Catalogue.blind_check directory families).mono fun _ _ => trivial).bind fun answer =>
    Blind.notes (report directory answer) (fun _ _ => trivial) (decide (answer = .ok []))

theorem blind_runGenerate (directory : String) (families : List Family) :
    Blind (fun _ => True) (runGenerate directory families) := by
  rw [funext (runGenerate_eq directory families)]
  exact ((Catalogue.blind_generate directory families).mono fun _ _ => trivial).bind fun answer =>
    Blind.notes (account directory families answer) (fun _ _ => trivial) answer.isOk

theorem blind_runOptions (catalogue : Except DeclarationError (List Family)) (options : Options) :
    Blind (fun _ => True) (runOptions catalogue options) := by
  have launch : Blind (fun _ => True) fun workspace =>
      ((), ⟨workspace.files, workspace.log.noteAll (launched options)⟩) :=
    Blind.notes (launched options) (fun _ _ => trivial) ()
  cases catalogue with
  | error error =>
    exact launch.bind fun _ =>
      Blind.notes [⟨.error, s!"Invalid instruction family catalogue: {error.message}"⟩] (fun _ _ => trivial) (false, "")
  | ok families =>
    cases lists : options.list with
    | true =>
      rw [funext (runOptions_of_list lists)]
      exact launch.map fun _ => (true, String.join (families.map listing))
    | false =>
      cases checks : options.check with
      | true =>
        rw [funext (runOptions_of_check checks lists)]
        exact launch.bind fun _ => (blind_runCheck options.directory families).map fun well => (well, "")
      | false =>
        rw [funext (runOptions_of_generate checks lists)]
        exact launch.bind fun _ => (blind_runGenerate options.directory families).map fun well => (well, "")

/-- The level that some arguments ask for, if they ask for a run. -/
def levelAsked (arguments : List String) : Level :=
  match read arguments with
  | .run options => options.level
  | .version | .help | .refused => .warn

/-- **What a run does is the same for each filter**, which decides what is kept of one list of records. -/
theorem exists_runWith_eq (logger : Logger) (catalogue : Except DeclarationError (List Family))
    (arguments : List String) (files : FileSystem) :
    ∃ exit output after, ∃ records : List Record, ∀ filter,
      let done := runWith logger catalogue arguments filter files
      done.1.exit = exit ∧ done.1.output = output ∧ done.2 = after ∧
        done.1.records.toList = records.filter (logger.keeps (filter.getD (levelAsked arguments).name)) := by
  cases asked : read arguments with
  | run options =>
    obtain ⟨answer, after, records, does, -⟩ := blind_runOptions catalogue options files
    have level : levelAsked arguments = options.level := by
      unfold levelAsked
      rw [asked]
    refine ⟨if answer.1 then 0 else 1, answer.2, after, records, fun filter => ?_⟩
    rw [runWith_eq logger catalogue asked, level]
    simp only [does]
    exact ⟨trivial, trivial, trivial, Array.toList_filter.trans (kept_noteAll logger _ records)⟩
  | version | help | refused =>
    let alone := runWith logger catalogue arguments none files
    refine ⟨alone.1.exit, alone.1.output, files, [], fun filter => ?_⟩
    unfold alone runWith
    rw [asked]
    exact ⟨rfl, rfl, rfl, rfl⟩

theorem filter_keeps_of_name {logger : Logger} {text : String} {finest : Option Level}
    (named : Level.finestOfName? text = some finest) (records : List Record) :
    records.filter (logger.keeps text) = Log.kept finest records :=
  List.filter_congr fun record _ => logger.keeps_of_name named record

/-- **What is logged does not interfere with what is done.**  Calls on a directory give the same answers and leave the
same files whatever level of the log is kept, and so does a run of the program, its exit status and output included,
whatever filter the environment sets and whatever logger reads it.  Of two such runs the one whose filter keeps less has
logged, of the records of the other, those that its filter keeps, in their order.  A filter that names a level keeps
less than one that names a level of more detail, and `off` keeps nothing. -/
theorem levels_do_not_interfere (files : FileSystem) :
    (∀ (directory : String) (calls : List Session.Call) (level level' : Option Level),
      let short := Session.performAll directory calls ⟨files, .empty level⟩
      let long := Session.performAll directory calls ⟨files, .empty level'⟩
      short.1 = long.1 ∧ short.2.files = long.2.files ∧
      (Log.depth level ≤ Log.depth level' → short.2.log.records.toList = Log.kept level long.2.log.records.toList) ∧
      (level = none → short.2.log.records.toList = [])) ∧
    ∀ (logger : Logger) (arguments : List String) (filter filter' : Option String),
      let short := runUnder logger arguments filter files
      let long := runUnder logger arguments filter' files
      let text := filter.getD (levelAsked arguments).name
      let text' := filter'.getD (levelAsked arguments).name
      short.1.exit = long.1.exit ∧ short.1.output = long.1.output ∧ short.2 = long.2 ∧
      ((∀ record, logger.keeps text record = true → logger.keeps text' record = true) →
        short.1.records.toList = long.1.records.toList.filter (logger.keeps text)) ∧
      ∀ level, Level.finestOfName? text = some level →
        (∀ level', Level.finestOfName? text' = some level' → Log.depth level ≤ Log.depth level' →
          short.1.records.toList = Log.kept level long.1.records.toList) ∧
        (level = none → short.1.records.toList = []) := by
  constructor
  · intro directory calls level level'
    obtain ⟨answers, after, records, does, -⟩ := Session.blind_performAll directory calls files
    simp only [does, Log.toList_records_noteAll_empty]
    refine ⟨trivial, trivial, fun coarser => (Log.kept_kept coarser records).symm, ?_⟩
    rintro rfl
    exact Log.kept_none records
  · intro logger arguments filter filter' short long text text'
    obtain ⟨exit, output, after, records, same⟩ := exists_runWith_eq logger Catalogue.armThumb arguments files
    obtain ⟨status, printed, left, logged⟩ := same filter
    obtain ⟨status', printed', left', logged'⟩ := same filter'
    refine ⟨status.trans status'.symm, printed.trans printed'.symm, left.trans left'.symm, ?_, ?_⟩
    · intro narrower
      rw [show short.1.records.toList = _ from logged, show long.1.records.toList = _ from logged', List.filter_filter]
      refine List.filter_congr fun record _ => ?_
      rw [Bool.eq_iff_iff, Bool.and_eq_true]
      exact ⟨fun kept => ⟨kept, narrower record kept⟩, And.left⟩
    · intro level named
      have logged : short.1.records.toList = Log.kept level records := logged.trans (filter_keeps_of_name named records)
      rw [logged]
      refine ⟨fun level' named' coarser => ?_, ?_⟩
      · have logged' : long.1.records.toList = Log.kept level' records :=
          logged'.trans (filter_keeps_of_name named' records)
        rw [logged', Log.kept_kept coarser]
      · rintro rfl
        exact Log.kept_none records

/-- Of a generation that fails on the device, a log without the trace keeps how it began.  A run of the program keeps
nothing if the filter is off, and of its errors what a run that traces keeps of them too; so does one whose filter keeps
errors of the program's own module only. -/
theorem full_levels :
    let files := (Workspace.linked "/dev/full").files
    let traced := (run ["-o", "out"] (some "trace") files).1.records.toList
    (Session.performAll "" [.generate .swap] ⟨files, .empty (some .debug)⟩).2.log.records.toList =
        [⟨.debug, "Generating SWP_INSTR.gencpp for arm_swp(byteword:2)"⟩] ∧
      (run ["-o", "out"] (some "off") files).1.records.toList = [] ∧
      (run ["-o", "out"] (some "error") files).1.records.toList = Log.kept (some .error) traced ∧
      (run ["-o", "out"] (some "dispatchgen=error") files).1.records.toList =
        traced.filter (Directive.keeps "dispatchgen=error") := by
  intro files traced
  obtain ⟨session, program⟩ := levels_do_not_interfere files
  have tracing : Level.finestOfName? "trace" = some (some .trace) := by decide +kernel
  unfold traced run
  refine ⟨?_, ?_, ?_, ?_⟩
  · obtain ⟨-, -, shorter, -⟩ := session "" [.generate .swap] (some .debug) (some .trace)
    exact (shorter (by decide)).trans (by decide +kernel)
  · obtain ⟨-, -, -, -, names⟩ := program .directives ["-o", "out"] (some "off") (some "trace")
    exact (names none (by decide +kernel)).2 rfl
  · obtain ⟨-, -, -, -, names⟩ := program .directives ["-o", "out"] (some "error") (some "trace")
    exact (names (some .error) (by decide +kernel)).1 (some .trace) tracing (by decide)
  · obtain ⟨-, -, -, narrower, -⟩ := program .directives ["-o", "out"] (some "dispatchgen=error") (some "trace")
    refine narrower fun record _ => ?_
    rw [show (some "trace").getD _ = "trace" from rfl, Logger.directives.keeps_of_name tracing]
    cases record.level <;> rfl

end CommandLine

end DispatchChain
