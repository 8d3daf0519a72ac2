import DispatchChain.Proofs.Checking
import DispatchChain.Proofs.Intact
import DispatchChain.Session
/-!
# Runs — what calls made one after another leave of a file system

However many calls are made, no part of a chain is left behind (`Session.performAll_intact`): by induction on
the calls, and within a catalogue on its families, since each leaves the files intact.
-/
namespace DispatchChain

variable {directory : String}

/-- The device does not itself stand at a path: what leads to it there is a link. -/
def FileSystem.BehindLinks (fs : FileSystem) (path : String) : Prop :=
  ∀ location, fs.locate? .inspect path ≠ .ok (.fullDevice location)

theorem Intact.behindLinks {before after : FileSystem} {written failed : Family → Prop} {path : String}
    (intact : Intact directory before after written failed) (behind : before.BehindLinks path) :
    after.BehindLinks path :=
  fun location looked => behind location (FileSystem.locate?_fullDevice_mono intact.waysBack looked)

/-- The failure of an artifact for which there is no room. -/
def Family.noRoom (directory : String) (family : Family) : Failure :=
  .file (family.artifactPath directory) .deviceFull

namespace Catalogue

theorem processEach_intact (directory : String) : ∀ (families : List Family) (workspace : Workspace),
    (∀ family ∈ families, workspace.files.BehindLinks (family.artifactPath directory)) →
      let outcomes := (processEach (Workspace.generate directory) families workspace).1
      Intact directory workspace.files (processEach (Workspace.generate directory) families workspace).2.files
        (fun family => family ∈ families)
        (fun family => family ∈ families ∧ (family, .error (family.noRoom directory)) ∈ outcomes)
  | [], _, _ => .refl
  | family :: families, workspace, behind => by
    have first : Intact directory workspace.files (workspace.generate directory family).2.files
        (fun other => other ∈ family :: families)
        (fun other => other ∈ family :: families ∧ (other, .error (other.noRoom directory)) ∈
          (processEach (Workspace.generate directory) (family :: families) workspace).1) := by
      refine Workspace.generate_intact List.mem_cons_self (fun fails => ⟨List.mem_cons_self, ?_⟩)
        (behind family List.mem_cons_self)
      rw [processEach]
      exact List.mem_cons.2 (.inl (by rw [fails]; rfl))
    have later := processEach_intact directory families (workspace.generate directory family).2
      fun other mem => first.behindLinks (behind other (List.mem_cons_of_mem family mem))
    exact first.trans (later.mono (fun _ mem => List.mem_cons_of_mem family mem)
      fun _ fails => ⟨List.mem_cons_of_mem family fails.1, List.mem_cons_of_mem _ fails.2⟩)

/-- **A catalogue that is generated leaves the files intact**, be it refused, or some of its families fail. -/
theorem generate_intact (directory : String) (families : List Family) (workspace : Workspace)
    (behind : ∀ family ∈ families, workspace.files.BehindLinks (family.artifactPath directory)) :
    Intact directory workspace.files (generate directory families workspace).2.files
      (fun family => family ∈ families)
      (fun family => family ∈ families ∧ ∃ failures,
        (generate directory families workspace).1 = .error failures ∧
          ⟨family.artifact, family.noRoom directory⟩ ∈ failures) := by
  unfold generate process
  cases requireDistinct families with
  | error error => exact .refl
  | ok _ =>
    refine (processEach_intact directory families workspace behind).mono (fun _ mem => mem) ?_
    rintro family ⟨mem, fails⟩
    have reported : ⟨family.artifact, family.noRoom directory⟩ ∈
        failures (processEach (Workspace.generate directory) families workspace).1 :=
      mem_failures_iff.2 ⟨family, fails, rfl⟩
    have some_fail : failures (processEach (Workspace.generate directory) families workspace).1 ≠ [] :=
      List.ne_nil_of_mem reported
    refine ⟨mem, _, ?_, reported⟩
    simp only [if_neg some_fail]
    rfl

end Catalogue

namespace Session

def Call.generates : Call → List Family
  | .generate family => [family]
  | .generateCatalogue families => families
  | .check _ | .checkCatalogue _ => []

inductive Reports : Call → Answer → Family → Failure → Prop
  | alone {family failure} : Reports (.generate family) (.failed failure) family failure
  | among {families failures family failure} : family ∈ families → ⟨family.artifact, failure⟩ ∈ failures →
      Reports (.generateCatalogue families) (.failures failures) family failure

/-- The answer that a result is, or a failure. -/
def answered {ε α : Type} (done : α → Answer) (failed : ε → Answer) : Except ε α → Answer
  | .ok result => done result
  | .error failure => failed failure

theorem perform_generate (directory : String) (family : Family) (workspace : Workspace) :
    perform directory (.generate family) workspace =
      (answered .generated .failed (workspace.generate directory family).1,
        (workspace.generate directory family).2) := by
  unfold perform
  simp only
  rcases workspace.generate directory family with ⟨_ | _, _⟩ <;> rfl

theorem perform_check (directory : String) (family : Family) (workspace : Workspace) :
    perform directory (.check family) workspace =
      (answered .checked .failed (workspace.check directory family).1, (workspace.check directory family).2) := by
  unfold perform
  simp only
  rcases workspace.check directory family with ⟨_ | _, _⟩ <;> rfl

theorem perform_generateCatalogue (directory : String) (families : List Family) (workspace : Workspace) :
    perform directory (.generateCatalogue families) workspace =
      (answered .generated .failures (Catalogue.generate directory families workspace).1,
        (Catalogue.generate directory families workspace).2) := by
  unfold perform
  simp only
  rcases Catalogue.generate directory families workspace with ⟨_ | _, _⟩ <;> rfl

theorem perform_checkCatalogue (directory : String) (families : List Family) (workspace : Workspace) :
    perform directory (.checkCatalogue families) workspace =
      (answered .stale .failures (Catalogue.check directory families workspace).1,
        (Catalogue.check directory families workspace).2) := by
  unfold perform
  simp only
  rcases Catalogue.check directory families workspace with ⟨_ | _, _⟩ <;> rfl

theorem files_perform_check (directory : String) (family : Family) (workspace : Workspace) :
    (perform directory (.check family) workspace).2.files = workspace.files := by
  rw [perform_check, Workspace.files_check]

theorem files_perform_checkCatalogue (directory : String) (families : List Family) (workspace : Workspace) :
    (perform directory (.checkCatalogue families) workspace).2.files = workspace.files := by
  rw [perform_checkCatalogue, Catalogue.files_check]

theorem perform_intact (directory : String) (call : Call) (workspace : Workspace)
    (behind : ∀ family ∈ call.generates, workspace.files.BehindLinks (family.artifactPath directory)) :
    Intact directory workspace.files (perform directory call workspace).2.files
      (fun family => family ∈ call.generates)
      (fun family => Reports call (perform directory call workspace).1 family (family.noRoom directory)) := by
  cases call with
  | generate family =>
    have only : family ∈ Call.generates (.generate family) := List.mem_singleton_self family
    rw [perform_generate]
    refine Workspace.generate_intact only (fun fails => ?_) (behind family only)
    simp only [fails]
    exact .alone
  | check family =>
    rw [files_perform_check]
    exact .refl
  | generateCatalogue families =>
    rw [perform_generateCatalogue]
    refine (Catalogue.generate_intact directory families workspace behind).mono (fun _ mem => mem) ?_
    rintro family ⟨mem, failures, fails, reported⟩
    simp only [fails]
    exact .among mem reported
  | checkCatalogue families =>
    rw [files_perform_checkCatalogue]
    exact .refl

/-- **No run leaves a part of a chain behind**: after any calls, a file has the bytes that it had or those of the
chain of a family that was to be generated, no directory or file is gone, no directory or link has come, and the
only links that are gone lead to the full device and stood where the artifact of a family that failed would have
been. -/
theorem performAll_intact (directory : String) : ∀ (calls : List Call) (workspace : Workspace),
    (∀ call ∈ calls, ∀ family ∈ call.generates, workspace.files.BehindLinks (family.artifactPath directory)) →
      Intact directory workspace.files (performAll directory calls workspace).2.files
        (fun family => ∃ call ∈ calls, family ∈ call.generates)
        (fun family => ∃ made ∈ calls.zip (performAll directory calls workspace).1,
          Reports made.1 made.2 family (family.noRoom directory))
  | [], _, _ => .refl
  | call :: calls, workspace, behind => by
    have first := perform_intact directory call workspace (behind call List.mem_cons_self)
    have later := performAll_intact directory calls (perform directory call workspace).2
      fun call' mem family generates =>
        first.behindLinks (behind call' (List.mem_cons_of_mem call mem) family generates)
    refine (first.mono ?_ ?_).trans (later.mono ?_ ?_)
    · exact fun family generates => ⟨call, List.mem_cons_self, generates⟩
    · exact fun family reports => ⟨(call, (perform directory call workspace).1), List.mem_cons_self, reports⟩
    · rintro family ⟨call', mem, generates⟩
      exact ⟨call', List.mem_cons_of_mem call mem, generates⟩
    · rintro family ⟨made, mem, reports⟩
      exact ⟨made, List.mem_cons_of_mem _ mem, reports⟩

/-- The link to the device is removed where an artifact was to be written through it, and nothing else. -/
theorem full_intact :
    let run := performAll "" [.generate .swap, .check .swap] (.linked "/dev/full")
    run.1 = [.failed (.file "SWP_INSTR.gencpp" .deviceFull), .checked false] ∧
      Intact "" (Workspace.linked "/dev/full").files run.2.files
        (fun family => ∃ call ∈ [.generate .swap, .check .swap], family ∈ Call.generates call)
        (fun family => ∃ made ∈ [Call.generate .swap, .check .swap].zip run.1,
          Reports made.1 made.2 family (family.noRoom "")) := by
  have stands : (Workspace.linked "/dev/full").files.locate? .inspect (Family.swap.artifactPath "") =
      .ok (.link ["scratch", "SWP_INSTR.gencpp"] "/dev/full") := by rfl
  refine ⟨by decide +kernel, performAll_intact "" _ _ ?_⟩
  intro call mem family generates location
  rcases List.mem_cons.1 mem with rfl | mem
  · rw [List.mem_singleton.1 generates, stands]
    simp
  · rw [List.mem_singleton.1 mem] at generates
    cases generates

end Session

end DispatchChain
