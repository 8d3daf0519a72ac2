import DispatchChain.Proofs.LastWriter
import DispatchChain.Proofs.Reporting
import DispatchChain.Proofs.Turns
/-!
# ExitStatus — what the exit status of a run tells

A run that generates exits with zero exactly if every family was generated in its turn, a run that checks exactly if
every artifact holds the chain of its family, and a run that lists always (`CommandLine.exit_tells`).  The errors of a
run that generates are its failures, in the order of the catalogue, since a generation itself notes none.
-/
namespace DispatchChain

open FileSystem

variable {directory : String} {families : List Family}

namespace Catalogue

theorem isOk_generate_iff (distinct : (families.map Family.artifact).Nodup) (workspace : Workspace) :
    (generate directory families workspace).1.isOk = true ↔
      ∀ turn ∈ turns (Workspace.generate directory) families workspace,
        ∃ count, (turn.2.generate directory turn.1).1 = .ok count := by
  have totals := (@generate_turns directory families distinct workspace).1
  cases answer : (generate directory families workspace).1 with
  | ok clauses => exact iff_of_true rfl ((totals clauses).1 answer).1
  | error failed =>
    refine iff_of_false nofun fun succeed => ?_
    rw [(totals _).2 ⟨succeed, rfl⟩] at answer
    cases answer

/-- A catalogue that was generated is up to date, unless an artifact is a link. -/
theorem checked_of_generate {workspace : Workspace} (distinct : (families.map Family.artifact).Nodup)
    (unlinked : ∀ family ∈ families, workspace.files.Unlinked (family.artifactPath directory))
    (succeeds : (generate directory families workspace).1.isOk = true) :
    checked directory (generate directory families workspace).2.files families = .ok [] := by
  have separate : Separate workspace.files directory families :=
    fun family mem location target looked => absurd looked (unlinked family mem location target)
  cases answer : (generate directory families workspace).1 with
  | ok clauses =>
    rw [generate_eq distinct] at answer ⊢
    have fresh := check_processEach distinct separate answer
    rwa [check_eq distinct] at fresh
  | error failed =>
    rw [answer] at succeeds
    cases succeeds

/-- **Where nothing is in the way, every family is generated.** -/
theorem exists_count_of_free {workspace : Workspace} {spare : Nat} {inside : Location}
    (opens : workspace.files.Opens directory spare inside) (distinct : (families.map Family.artifact).Nodup)
    (ordinary : ∀ family ∈ families,
      IsOrdinary directory family.artifact (workspace.files.lookup (inside ++ [family.artifact])))
    (free : ∀ family ∈ families,
      obstacle directory family.artifact (workspace.files.lookup (inside ++ [family.artifact])) = none) :
    ∀ turn ∈ turns (Workspace.generate directory) families workspace,
      ∃ count, (turn.2.generate directory turn.1).1 = .ok count := by
  have ready : workspace.files.Ready directory families spare inside :=
    ⟨opens, fun family mem accepted target isLink => absurd isLink ((ordinary family mem).1 accepted target)⟩
  obtain ⟨outcomes, -⟩ := processEach_generate families workspace ready distinct
  rw [processEach_eq_turns] at outcomes
  intro turn mem
  have answered : (turn.1, (turn.2.generate directory turn.1).1) ∈ alone directory workspace families :=
    outcomes ▸ List.mem_map_of_mem mem
  obtain ⟨family, mem', same⟩ := List.mem_map.1 answered
  obtain ⟨named, answer⟩ := Prod.mk.inj same
  refine ⟨family.count, ?_⟩
  rw [← answer, (Workspace.generate_of_opens opens (ready.straight_of_mem mem')).answer,
    Family.renew_of_free (ordinary family mem') (free family mem')]

end Catalogue

namespace CommandLine

open Catalogue (turns failed?)

variable {options : Options} {arguments : List String}

def Outcome.errors (outcome : Outcome) : List Record :=
  outcome.records.toList.filter fun record => record.level = .error

theorem errors_account (distinct : (families.map Family.artifact).Nodup) (workspace : Workspace) :
    ((account directory families (Catalogue.generate directory families workspace).1).filter
        fun record => record.level = .error) =
      ((turns (Workspace.generate directory) families workspace).filterMap fun turn =>
        failed? turn.1 (turn.2.generate directory turn.1).1).map failureRecord := by
  obtain ⟨totals, failures⟩ := @Catalogue.generate_turns directory families distinct workspace
  cases answer : (Catalogue.generate directory families workspace).1 with
  | ok clauses =>
    have succeed := ((totals clauses).1 answer).1
    rw [(Catalogue.filterMap_failed?_eq_nil_iff _ _ _).2 succeed]
    rfl
  | error failed =>
    rw [← ((failures failed).1 answer).2]
    refine List.filter_eq_self.2 fun record mem => ?_
    obtain ⟨failed, -, rfl⟩ := List.mem_map.1 mem
    rfl

/-- **A run that generates leaves what the catalogue's generation leaves**, whatever it logs. -/
theorem run_of_generate (declared : Catalogue.armThumb = .ok families) (asked : read arguments = .run options)
    (generates : options.check = false) (lists : options.list = false) (logger : Logger) (filter : Option String)
    (files : FileSystem) (log : Log) :
    let done := runUnder logger arguments filter files
    let generated := Catalogue.generate options.directory families ⟨files, log⟩
    done.1.exit = (if generated.1.isOk then 0 else 1) ∧ done.2 = generated.2.files ∧
      ((∀ text, filter = some text → logger.AdmitsErrors text) →
        done.1.errors =
          (account options.directory families generated.1).filter fun record => record.level = .error) := by
  obtain ⟨answer, after, records, does, quiet⟩ := Catalogue.blind_generate options.directory families files
  rw [runUnder, declared, runWith_eq logger _ asked, runOptions_of_generate generates lists, runGenerate_eq]
  simp only [does]
  refine ⟨trivial, trivial, fun admitted => ?_⟩
  have errors : ((launched options ++ (records ++ account options.directory families answer)).filter
      fun record => record.level = .error) =
      (account options.directory families answer).filter fun record => record.level = .error := by
    rw [List.filter_append, List.filter_append, Workspace.errors_of_quiet (quiet_launched options),
      Workspace.errors_of_quiet quiet, List.nil_append, List.nil_append]
  rw [Outcome.errors, Array.toList_filter, ← Log.noteAll_append, ← Log.noteAll_append, kept_noteAll, List.filter_comm,
    errors]
  exact Logger.filter_errors (admitsErrors_getD admitted options.level) fun record mem => by simp_all

/-- **A run that checks changes nothing**, and logs those errors of its report that the filter keeps. -/
theorem run_of_check (declared : Catalogue.armThumb = .ok families) (asked : read arguments = .run options)
    (checks : options.check = true) (logger : Logger) (filter : Option String) (files : FileSystem) :
    let done := runUnder logger arguments filter files
    let checked := Catalogue.checked options.directory files families
    done.1.exit = (if checked = .ok [] then 0 else 1) ∧ done.2 = files ∧
      done.1.errors = (report options.directory checked).filter (logger.keeps (filter.getD options.level.name)) := by
  have distinct := (Catalogue.declare_eq_ok_iff.1 declared).2
  have lists := list_eq_false_of_check asked checks
  refine ⟨?_, ?_, errors_runUnder_check declared logger asked checks filter files⟩
  all_goals rw [runUnder, declared, runWith_eq logger _ asked]
  · rw [runOptions_of_check checks lists, runCheck_eq, Catalogue.check_eq distinct]
    simp
  · rw [runOptions_of_check checks lists, runCheck_eq, Catalogue.check_eq distinct]

theorem run_of_list (declared : Catalogue.armThumb = .ok families) (asked : read arguments = .run options)
    (lists : options.list = true) (logger : Logger) (filter : Option String) (files : FileSystem) :
    (runUnder logger arguments filter files).1.exit = 0 ∧ (runUnder logger arguments filter files).2 = files := by
  rw [runUnder, declared, runWith_eq logger _ asked, runOptions_of_list lists]
  exact ⟨rfl, rfl⟩

theorem exit_eq_zero_or_one (asked : read arguments = .run options) (logger : Logger) (filter : Option String)
    (files : FileSystem) :
    (runUnder logger arguments filter files).1.exit = 0 ∨ (runUnder logger arguments filter files).1.exit = 1 := by
  rw [runUnder, runWith_eq logger _ asked]
  simp only
  split
  · exact .inl rfl
  · exact .inr rfl

/-- **The exit status of a run tells whether all is well**, whatever logger reads whatever filter.  A run that generates
leaves what the generation of the catalogue leaves, and exits with zero exactly if every family was generated in its
turn; if the filter admits errors, they are the failures of the others, one for each, in the order of the catalogue.  A
run that checks changes no file, and exits with zero exactly if every artifact can be read and is the chain of its
family.  A run that lists changes no file and exits with zero.  Any other exit status is one, as it is if the arguments
are refused.  Where no artifact is a link, a run that checks what was generated with exit status zero has that status
too, and notes no error. -/
theorem exit_tells (logger : Logger) (files : FileSystem) :
    (∀ (arguments : List String) (filter : Option String), read arguments = .refused →
      (runUnder logger arguments filter files).1.exit = 1 ∧ (runUnder logger arguments filter files).2 = files) ∧
    ∃ families, Catalogue.armThumb = .ok families ∧
      ∀ (arguments : List String) (filter : Option String) (options : Options), read arguments = .run options →
        let path (family : Family) := family.artifactPath options.directory
        let done := runUnder logger arguments filter files
        (done.1.exit = 0 ∨ done.1.exit = 1) ∧
        (options.list = true → done.1.exit = 0 ∧ done.2 = files) ∧
        (options.check = true → done.2 = files ∧
          (done.1.exit = 0 ↔ ∀ family ∈ families, files.read (path family) = .ok family.render.toByteArray)) ∧
        (options.check = false → options.list = false →
          (∀ log,
            let turns := turns (Workspace.generate options.directory) families ⟨files, log⟩
            let generated (turn : Family × Workspace) := (turn.2.generate options.directory turn.1).1
            done.2 = (Catalogue.generate options.directory families ⟨files, log⟩).2.files ∧
            (done.1.exit = 0 ↔ ∀ turn ∈ turns, ∃ count, generated turn = .ok count) ∧
            ((∀ text, filter = some text → logger.AdmitsErrors text) →
              done.1.errors = (turns.filterMap fun turn => failed? turn.1 (generated turn)).map failureRecord)) ∧
          ((∀ family ∈ families, files.Unlinked (path family)) → done.1.exit = 0 →
            ∀ (arguments' : List String) (filter' : Option String) (options' : Options),
              read arguments' = .run options' → options'.check = true → options'.directory = options.directory →
              let checked := runUnder logger arguments' filter' done.2
              checked.1.exit = 0 ∧ checked.1.errors = [])) := by
  constructor
  · intro arguments filter refused
    unfold runUnder runWith
    rw [refused]
    exact ⟨rfl, rfl⟩
  obtain ⟨families, declared⟩ := Catalogue.exists_armThumb
  have distinct := (Catalogue.declare_eq_ok_iff.1 declared).2
  refine ⟨families, declared, ?_⟩
  intro arguments filter options asked path done
  refine ⟨exit_eq_zero_or_one asked logger filter files,
    fun lists => run_of_list declared asked lists logger filter files, fun checks => ?_,
    fun generates lists => ⟨?_, ?_⟩⟩
  · obtain ⟨exit, unchanged, -⟩ := run_of_check declared asked checks logger filter files
    refine ⟨unchanged, ?_⟩
    rw [exit, ← Catalogue.checked_eq_ok_nil_iff]
    simp
  · intro log turns' generated
    obtain ⟨exit, left, errors⟩ := run_of_generate declared asked generates lists logger filter files log
    refine ⟨left, ?_, fun admitted => ?_⟩
    · rw [exit, ← Catalogue.isOk_generate_iff distinct]
      simp
    · rw [errors admitted, errors_account distinct]
  · intro unlinked succeeds arguments' filter' options' asked' checks same checked
    obtain ⟨exit, left, -⟩ := run_of_generate declared asked generates lists logger filter files (.empty none)
    have fresh : Catalogue.checked options.directory done.2 families = .ok [] := by
      rw [left]
      exact Catalogue.checked_of_generate distinct unlinked (by simpa using exit.symm.trans succeeds)
    obtain ⟨exit', -, errors⟩ := run_of_check declared asked' checks logger filter' done.2
    rw [same, fresh] at exit' errors
    exact ⟨exit', errors⟩

/-- In an empty directory a check fails at first.  A run generates all the same, and then a check does not fail, even if
it logs nothing. -/
theorem scratch_tells :
    (run ["--check", "--list"] none .scratch).1.exit = 1 ∧ (run ["--list"] none .scratch).1.exit = 0 ∧
      (run ["--check", "-o", "."] none .scratch).1.exit = 1 ∧ (run ["-o", "."] none .scratch).1.exit = 0 ∧
      (run ["--check", "-o", "."] (some "off") (run ["-o", "."] none .scratch).2).1.exit = 0 := by
  unfold run
  obtain ⟨refused, families, declared, told⟩ := exit_tells .directives .scratch
  have distinct := (Catalogue.declare_eq_ok_iff.1 declared).2
  have opens : FileSystem.scratch.Opens "." maxLinks ["scratch"] := by
    have steps : Path.entering "." = [.stay] := by decide +kernel
    have relative : Path.fromRoot "." = false := by decide +kernel
    rw [Opens, steps, relative]
    exact .stay .here
  -- No artifact is there yet.
  have vacant : ∀ family ∈ families, refusal (family.artifactPath ".") family.artifact = none ∧
      FileSystem.scratch.lookup (["scratch"] ++ [family.artifact]) = none := by
    have names : ∀ name ∈ (Catalogue.armFamilies ++ Catalogue.thumbFamilies).map FamilyDeclaration.artifact,
        refusal (Path.join "." name) name = none ∧ FileSystem.scratch.lookup (["scratch"] ++ [name]) = none := by
      decide +kernel
    rw [← Catalogue.map_artifact_of_declare declared] at names
    exact fun family mem => names family.artifact (List.mem_map_of_mem mem)
  have located : ∀ family ∈ families, ∀ purpose, FileSystem.scratch.locate? purpose (family.artifactPath ".") =
      .ok (.vacant ["scratch"] family.artifact) := by
    intro family mem purpose
    obtain ⟨accepted, free⟩ := vacant family mem
    have unlinked : ∀ target, FileSystem.scratch.lookup (["scratch"] ++ [family.artifact]) ≠ some (.link target) :=
      fun target isLink => by rw [free] at isLink; cases isLink
    rw [Family.artifactPath, locate?_of_accepted opens family.artifact_name accepted (.inr unlinked), placeAt, free]
    rfl
  have checks : read ["--check", "-o", "."] = .run ⟨.warn, ".", true, false⟩ := by decide +kernel
  have generates : read ["-o", "."] = .run ⟨.warn, ".", false, false⟩ := by decide +kernel
  obtain ⟨-, -, -, generation⟩ := told _ none _ generates
  obtain ⟨account, later⟩ := generation rfl rfl
  have succeeds : (runUnder .directives ["-o", "."] none .scratch).1.exit = 0 := by
    refine (account (.empty none)).2.1.2 (Catalogue.exists_count_of_free opens distinct ?_ ?_)
    · intro family mem
      rw [(vacant family mem).2]
      exact ⟨fun _ _ => by simp, fun _ => by simp⟩
    · intro family mem
      rw [(vacant family mem).2, obstacle_of_accepted (vacant family mem).1]
  refine ⟨(refused _ none (by decide +kernel)).1,
    ((told ["--list"] none ⟨.warn, "src/", false, true⟩ (by decide +kernel)).2.1 rfl).1, ?_, succeeds, ?_⟩
  · obtain ⟨status, -, check, -⟩ := told _ none _ checks
    refine status.resolve_left fun zero => ?_
    obtain ⟨family, mem, -⟩ := Catalogue.exists_mem_of_declare declared (List.mem_append_left _ List.mem_cons_self)
    have read := (check rfl).2.1 zero family mem
    rw [FileSystem.read, located family mem] at read
    cases read
  · have unlinked : ∀ family ∈ families, FileSystem.scratch.Unlinked (family.artifactPath ".") := by
      intro family mem location target
      rw [located family mem]
      simp
    exact (later unlinked succeeds _ (some "off") _ checks rfl rfl).1

end CommandLine

end DispatchChain
