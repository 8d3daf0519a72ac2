import DispatchChain.Proofs.Rejection
import DispatchChain.Proofs.Runs
/-!
# LastWriter — what calls made one after another leave at each name

Seen from outside, an output directory is a map from names to chains.  A family that is processed leaves its chain at
its name, unless the name is refused or a directory stands there (`leaves`).  So where neither a link nor the device
stands at a path of an artifact, what a run leaves there depends on the last family of the name
(`Session.performAll_refines`): by induction on the calls, and within a catalogue on its families, since what each
leaves composes (`Processed.trans`).
-/
namespace DispatchChain

open FileSystem

variable {directory name : String} {families later : List Family} {family : Family} {stands : Option Entry}
  {spare : Nat} {inside : Location}

/-- The last of some families whose artifact has the name. -/
def lastWriter : List Family → String → Option Family
  | [], _ => none
  | family :: families, name => (lastWriter families name).or (if family.artifact = name then some family else none)

theorem lastWriter_append (name : String) : ∀ families later : List Family,
    lastWriter (families ++ later) name = (lastWriter later name).or (lastWriter families name)
  | [], later => by rw [List.nil_append, lastWriter, Option.or_none]
  | family :: families, later => by
    rw [List.cons_append, lastWriter, lastWriter, lastWriter_append name families later, Option.or_assoc]

/-- Why no artifact can be written at a name: the name is refused, or a directory stands there. -/
def obstacle (directory name : String) (stands : Option Entry) : Option FileError :=
  match refusal (Path.join directory name) name with
  | some error => some error
  | none =>
    match stands with
    | some .directory => some .isDirectory
    | _ => none

/-- **What families leave at a name** when they are processed in order. -/
def leaves (directory : String) (families : List Family) (name : String) (stands : Option Entry) : Option Entry :=
  match obstacle directory name stands, lastWriter families name with
  | none, some family => some (.file family.render.toByteArray)
  | _, _ => stands

/-- No link stands at a name, unless the name is refused anyway. -/
def IsUnlinked (directory name : String) (stands : Option Entry) : Prop :=
  refusal (Path.join directory name) name = none → ∀ target, stands ≠ some (.link target)

/-- Neither a link nor the device stands at a name, unless the name is refused anyway. -/
def IsOrdinary (directory name : String) (stands : Option Entry) : Prop :=
  IsUnlinked directory name stands ∧ (refusal (Path.join directory name) name = none → stands ≠ some .fullDevice)

theorem obstacle_of_refused {error : FileError} (refused : refusal (Path.join directory name) name = some error)
    (stands : Option Entry) : obstacle directory name stands = some error := by
  unfold obstacle
  rw [refused]

theorem obstacle_of_accepted (accepted : refusal (Path.join directory name) name = none) :
    obstacle directory name stands =
      match stands with
      | some .directory => some .isDirectory
      | _ => none := by
  unfold obstacle
  rw [accepted]

theorem accepted_of_obstacle_none (free : obstacle directory name stands = none) :
    refusal (Path.join directory name) name = none := by
  refine Option.eq_none_iff_forall_ne_some.2 fun error refused => ?_
  rw [obstacle_of_refused refused] at free
  cases free

theorem leaves_of_obstacle {error : FileError} (blocked : obstacle directory name stands = some error)
    (families : List Family) : leaves directory families name stands = stands := by
  unfold leaves
  rw [blocked]

theorem leaves_of_no_writer (none : lastWriter families name = none) :
    leaves directory families name stands = stands := by
  unfold leaves
  rw [none]
  cases obstacle directory name stands <;> rfl

theorem leaves_of_writer (free : obstacle directory name stands = none)
    (last : lastWriter families name = some family) :
    leaves directory families name stands = some (.file family.render.toByteArray) := by
  unfold leaves
  rw [free, last]

theorem isOrdinary_of_obstacle {error : FileError} (blocked : obstacle directory name stands = some error) :
    IsOrdinary directory name stands := by
  cases refusing : refusal (Path.join directory name) name with
  | some error =>
    have rejected : refusal (Path.join directory name) name ≠ none := by simp [refusing]
    exact ⟨fun accepted => absurd accepted rejected, fun accepted => absurd accepted rejected⟩
  | none =>
    rw [obstacle_of_accepted refusing] at blocked
    split at blocked
    · exact ⟨fun _ _ => by simp, fun _ => by simp⟩
    · cases blocked

theorem obstacle_leaves (families : List Family) :
    obstacle directory name (leaves directory families name stands) = obstacle directory name stands := by
  cases blocked : obstacle directory name stands with
  | some error => rw [leaves_of_obstacle blocked, blocked]
  | none =>
    cases last : lastWriter families name with
    | none => rw [leaves_of_no_writer last, blocked]
    | some family =>
      rw [leaves_of_writer blocked last]
      cases refusing : refusal (Path.join directory name) name with
      | some error => rw [obstacle_of_refused refusing] at blocked; cases blocked
      | none => rw [obstacle_of_accepted refusing]

theorem isOrdinary_leaves (ordinary : IsOrdinary directory name stands) (families : List Family) :
    IsOrdinary directory name (leaves directory families name stands) := by
  cases blocked : obstacle directory name stands with
  | some error => rwa [leaves_of_obstacle blocked]
  | none =>
    cases last : lastWriter families name with
    | none => rwa [leaves_of_no_writer last]
    | some family =>
      rw [leaves_of_writer blocked last]
      exact ⟨fun _ _ => by simp, fun _ => by simp⟩

/-- **What families leave, and then others, is what all of them leave.** -/
theorem leaves_append (families later : List Family) :
    leaves directory (families ++ later) name stands =
      leaves directory later name (leaves directory families name stands) := by
  cases blocked : obstacle directory name stands with
  | some error => rw [leaves_of_obstacle blocked, leaves_of_obstacle blocked, leaves_of_obstacle blocked]
  | none =>
    have free : obstacle directory name (leaves directory families name stands) = none := by
      rw [obstacle_leaves, blocked]
    cases last : lastWriter later name with
    | none =>
      rw [leaves_of_no_writer last]
      unfold leaves
      rw [lastWriter_append, last, Option.none_or]
    | some family =>
      rw [leaves_of_writer free last, leaves_of_writer blocked (by rw [lastWriter_append, last, Option.some_or])]

theorem Family.renew_of_obstacle {error : FileError}
    (blocked : obstacle directory family.artifact stands = some error) (spare : Nat) :
    family.renew directory spare stands = (.error (.file (family.artifactPath directory) error), stands) := by
  cases refusing : refusal (family.artifactPath directory) family.artifact with
  | some error' =>
    rw [obstacle_of_refused refusing] at blocked; cases blocked
    exact renew_of_refused refusing spare stands
  | none =>
    rw [obstacle_of_accepted refusing] at blocked
    split at blocked
    · cases blocked
      rw [renew_of_accepted refusing]
    · cases blocked

theorem Family.renew_of_free (ordinary : IsOrdinary directory family.artifact stands)
    (free : obstacle directory family.artifact stands = none) (spare : Nat) :
    family.renew directory spare stands = (.ok family.count, some (.file family.render.toByteArray)) := by
  have accepted := accepted_of_obstacle_none free
  rw [renew_of_accepted accepted]
  rcases stands with _ | _ | bytes | target | _
  · rfl
  · rw [obstacle_of_accepted accepted] at free; cases free
  · rfl
  · exact absurd rfl (ordinary.1 accepted target)
  · exact absurd rfl (ordinary.2 accepted)

/-- **A family that is generated leaves its chain**, unless there is an obstacle. -/
theorem Family.renew_leaves (ordinary : IsOrdinary directory family.artifact stands) (spare : Nat) :
    (family.renew directory spare stands).2 = leaves directory [family] family.artifact stands := by
  have writer : lastWriter [family] family.artifact = some family := by
    rw [lastWriter, lastWriter, if_pos rfl, Option.none_or]
  cases blocked : obstacle directory family.artifact stands with
  | some error => rw [renew_of_obstacle blocked, leaves_of_obstacle blocked]
  | none => rw [renew_of_free ordinary blocked, leaves_of_writer blocked writer]

theorem Family.isUnlinked_renew (unlinked : IsUnlinked directory family.artifact stands) (spare : Nat) :
    IsUnlinked directory family.artifact (family.renew directory spare stands).2 := by
  intro accepted
  rw [renew_of_accepted accepted]
  rcases stands with _ | _ | bytes | target | _
  · simp
  · simp
  · simp
  · exact absurd rfl (unlinked accepted target)
  · simp

/-- **What one file system becomes when families are processed**: the directory can be entered as before, at every
name that is ordinary stands what the families leave there, and no name has become a link. -/
structure Processed (directory : String) (spare : Nat) (inside : Location) (families : List Family)
    (before after : FileSystem) : Prop where
  opens : after.Opens directory spare inside
  stands : ∀ name, IsOrdinary directory name (before.lookup (inside ++ [name])) →
    after.lookup (inside ++ [name]) = leaves directory families name (before.lookup (inside ++ [name]))
  unlinked : ∀ name, IsUnlinked directory name (before.lookup (inside ++ [name])) →
    IsUnlinked directory name (after.lookup (inside ++ [name]))

def FileSystem.Unlinked (fs : FileSystem) (path : String) : Prop :=
  ∀ location target, fs.locate? .inspect path ≠ .ok (.link location target)

/-- A directory that exists can be entered, and so can the working directory. -/
theorem opens_of_isDirectory {fs : FileSystem} (enterable : directory = "" ∨ fs.isDirectory directory = true) :
    ∃ spare inside, fs.Opens directory spare inside := by
  rcases enterable with rfl | isDirectory
  · exact ⟨_, _, opens_here fs⟩
  · unfold FileSystem.isDirectory at isDirectory
    split at isDirectory
    · rename_i located
      exact opens_of_locate? located
    · cases isDirectory

section

variable {fs fs' : FileSystem} (opens : fs.Opens directory spare inside) (isName : IsArtifactName name)

include opens isName

theorem isUnlinked_of_unlinked (unlinked : fs.Unlinked (Path.join directory name)) :
    IsUnlinked directory name (fs.lookup (inside ++ [name])) := by
  intro accepted target isLink
  have looked : fs.locate? .inspect (Path.join directory name) =
      .ok (.standing inside name (some (.link target))) :=
    isLink ▸ locate?_of_accepted opens isName accepted (.inl rfl)
  exact unlinked _ target looked

theorem isOrdinary_of_unlinked (unlinked : fs.Unlinked (Path.join directory name))
    (behind : fs.BehindLinks (Path.join directory name)) :
    IsOrdinary directory name (fs.lookup (inside ++ [name])) := by
  refine ⟨isUnlinked_of_unlinked opens isName unlinked, fun accepted device => ?_⟩
  have looked : fs.locate? .inspect (Path.join directory name) = .ok (.standing inside name (some .fullDevice)) :=
    device ▸ locate?_of_accepted opens isName accepted (.inl rfl)
  exact behind _ looked

theorem locate?_of_isUnlinked (unlinked : IsUnlinked directory name (fs.lookup (inside ++ [name])))
    (accepted : refusal (Path.join directory name) name = none) (purpose : Purpose) :
    fs.locate? purpose (Path.join directory name) = .ok (fs.placeAt inside name) :=
  locate?_of_accepted opens isName accepted (.inr (unlinked accepted))

theorem locate?_congr_of_isUnlinked (opens' : fs'.Opens directory spare inside)
    (unlinked : IsUnlinked directory name (fs.lookup (inside ++ [name])))
    (same : fs'.lookup (inside ++ [name]) = fs.lookup (inside ++ [name])) (purpose : Purpose) :
    fs'.locate? purpose (Path.join directory name) = fs.locate? purpose (Path.join directory name) := by
  cases refusing : refusal (Path.join directory name) name with
  | some error => rw [locate?_of_refused opens isName refusing, locate?_of_refused opens' isName refusing]
  | none =>
    rw [locate?_of_isUnlinked opens isName unlinked refusing,
      locate?_of_isUnlinked opens' isName (same ▸ unlinked) refusing, placeAt, placeAt, same]

/-- **A file can be opened for writing at a name unless there is an obstacle.** -/
theorem create_eq_error_iff (unlinked : IsUnlinked directory name (fs.lookup (inside ++ [name]))) {error : FileError} :
    fs.create (Path.join directory name) = .error error ↔
      obstacle directory name (fs.lookup (inside ++ [name])) = some error := by
  cases refusing : refusal (Path.join directory name) name with
  | some error' =>
    rw [obstacle_of_refused refusing, create, locate?_of_refused opens isName refusing]
    simp
  | none =>
    rw [obstacle_of_accepted refusing, create, locate?_of_isUnlinked opens isName unlinked refusing, placeAt]
    rcases stands : fs.lookup (inside ++ [name]) with _ | _ | bytes | target | _
    · simp [Place.standing]
    · simp [Place.standing]
    · simp [Place.standing]
    · exact absurd stands (unlinked refusing target)
    · simp [Place.standing]

theorem read_of_file {bytes : ByteArray} (accepted : refusal (Path.join directory name) name = none)
    (stands : fs.lookup (inside ++ [name]) = some (.file bytes)) :
    fs.read (Path.join directory name) = .ok bytes := by
  have located : fs.locate? .openExisting (Path.join directory name) = .ok (fs.placeAt inside name) :=
    locate?_of_accepted opens isName accepted (.inr (by simp [stands]))
  rw [FileSystem.read, located, placeAt, stands]
  rfl

end

namespace Processed

variable {before mid after : FileSystem}

theorem nothing (opens : before.Opens directory spare inside) : Processed directory spare inside [] before before :=
  ⟨opens, fun _ _ => (leaves_of_no_writer rfl).symm, fun _ unlinked => unlinked⟩

theorem lookup_of_obstacle {error : FileError} (processed : Processed directory spare inside families before after)
    (blocked : obstacle directory name (before.lookup (inside ++ [name])) = some error) :
    after.lookup (inside ++ [name]) = before.lookup (inside ++ [name]) := by
  rw [processed.stands name (isOrdinary_of_obstacle blocked), leaves_of_obstacle blocked]

/-- **Families can be processed one after another.** -/
theorem trans (first : Processed directory spare inside families before mid)
    (second : Processed directory spare inside later mid after) :
    Processed directory spare inside (families ++ later) before after where
  opens := second.opens
  stands name ordinary := by
    have ordinary' : IsOrdinary directory name (mid.lookup (inside ++ [name])) := by
      rw [first.stands name ordinary]
      exact isOrdinary_leaves ordinary families
    rw [second.stands name ordinary', first.stands name ordinary, leaves_append]
  unlinked name unlinked := second.unlinked name (first.unlinked name unlinked)

end Processed

namespace Workspace

variable {workspace : Workspace}

theorem processed_generate (opens : workspace.files.Opens directory spare inside)
    (unlinked : IsUnlinked directory family.artifact (workspace.files.lookup (inside ++ [family.artifact]))) :
    Processed directory spare inside [family] workspace.files (workspace.generate directory family).2.files := by
  have straight : workspace.files.Straight directory inside family :=
    fun accepted target isLink => absurd isLink (unlinked accepted target)
  have passages := samePassages_renew straight spare
  rw [(generate_of_opens opens straight).files]
  refine ⟨opens.frame passages, fun name ordinary => ?_, fun name unlinked => ?_⟩
  · by_cases same : name = family.artifact
    · subst same
      rw [lookup_set _ _ _ below_root, if_pos rfl, Family.renew_leaves ordinary]
    · have unwritten : lastWriter [family] name = none := by
        rw [lastWriter, lastWriter, if_neg (Ne.symm same), Option.none_or]
      rw [lookup_set_name same, leaves_of_no_writer unwritten]
  · by_cases same : name = family.artifact
    · subst same
      rw [lookup_set _ _ _ below_root, if_pos rfl]
      exact Family.isUnlinked_renew unlinked spare
    · rwa [lookup_set_name same]

theorem generate_of_obstacle {error : FileError} (opens : workspace.files.Opens directory spare inside)
    (blocked : obstacle directory family.artifact (workspace.files.lookup (inside ++ [family.artifact])) = some error) :
    (workspace.generate directory family).1 = .error (.file (family.artifactPath directory) error) ∧
      (workspace.generate directory family).2.files = workspace.files :=
  generate_of_refused ((create_eq_error_iff opens family.artifact_name (isOrdinary_of_obstacle blocked).1).2 blocked)

end Workspace

namespace Catalogue

theorem processed_processEach : ∀ (families : List Family) (workspace : Workspace),
    workspace.files.Opens directory spare inside →
    (∀ family ∈ families, IsUnlinked directory family.artifact (workspace.files.lookup (inside ++ [family.artifact]))) →
      let run := processEach (Workspace.generate directory) families workspace
      Processed directory spare inside families workspace.files run.2.files ∧
        ∀ family ∈ families, ∀ error,
          obstacle directory family.artifact (workspace.files.lookup (inside ++ [family.artifact])) = some error →
            (family, .error (.file (family.artifactPath directory) error)) ∈ run.1
  | [], _, opens, _ => ⟨.nothing opens, fun _ mem => absurd mem List.not_mem_nil⟩
  | family :: families, workspace, opens, unlinked => by
    have first := Workspace.processed_generate opens (unlinked family List.mem_cons_self)
    obtain ⟨later, failed⟩ := processed_processEach families (workspace.generate directory family).2 first.opens
      fun other mem => first.unlinked other.artifact (unlinked other (List.mem_cons_of_mem family mem))
    refine ⟨first.trans later, fun other mem error blocked => ?_⟩
    simp only [processEach]
    rcases List.mem_cons.1 mem with rfl | mem
    · exact List.mem_cons.2 (.inl (by rw [(Workspace.generate_of_obstacle opens blocked).1]))
    · exact List.mem_cons_of_mem _ (failed other mem error (by rw [first.lookup_of_obstacle blocked, blocked]))

end Catalogue

namespace Session

/-- The families that a call is about. -/
def Call.mentions : Call → List Family
  | .generate family | .check family => [family]
  | .generateCatalogue families | .checkCatalogue families => families

theorem Call.mentions_of_generates {call : Call} (generates : family ∈ call.generates) : family ∈ call.mentions := by
  cases call with
  | generate _ | generateCatalogue _ => exact generates
  | check _ | checkCatalogue _ => cases generates

/-- The families that a call processes, of a catalogue all or, if two share an artifact, none. -/
def Call.processes : Call → List Family
  | .generate family => [family]
  | .generateCatalogue families => if (families.map Family.artifact).Nodup then families else []
  | .check _ | .checkCatalogue _ => []

theorem files_perform_of_processes_nil {call : Call} (none : call.processes = []) (workspace : Workspace) :
    (perform directory call workspace).2.files = workspace.files := by
  cases call with
  | generate family => cases none
  | check family => exact files_perform_check directory family workspace
  | generateCatalogue families =>
    rw [perform_generateCatalogue]
    by_cases distinct : (families.map Family.artifact).Nodup
    · rw [Call.processes, if_pos distinct] at none
      subst none
      rfl
    · obtain ⟨_, _, repeats⟩ := exists_repeatsFirstAt distinct
      rw [Catalogue.generate_of_repeats repeats]
  | checkCatalogue families => exact files_perform_checkCatalogue directory families workspace

theorem processed_perform {call : Call} {workspace : Workspace} (opens : workspace.files.Opens directory spare inside)
    (unlinked : ∀ family ∈ call.mentions,
      IsUnlinked directory family.artifact (workspace.files.lookup (inside ++ [family.artifact]))) :
    Processed directory spare inside call.processes workspace.files (perform directory call workspace).2.files := by
  by_cases none : call.processes = []
  · rw [files_perform_of_processes_nil none, none]
    exact .nothing opens
  cases call with
  | generate family =>
    rw [perform_generate]
    exact Workspace.processed_generate opens (unlinked family List.mem_cons_self)
  | generateCatalogue families =>
    by_cases distinct : (families.map Family.artifact).Nodup
    · rw [perform_generateCatalogue, Catalogue.generate_eq distinct, Call.processes, if_pos distinct]
      exact (Catalogue.processed_processEach families workspace opens unlinked).1
    · exact absurd (by rw [Call.processes, if_neg distinct]) none
  | check _ | checkCatalogue _ => exact absurd rfl none

theorem processed_performAll (directory : String) : ∀ (calls : List Call) (workspace : Workspace),
    workspace.files.Opens directory spare inside →
    (∀ call ∈ calls, ∀ family ∈ call.mentions,
      IsUnlinked directory family.artifact (workspace.files.lookup (inside ++ [family.artifact]))) →
      Processed directory spare inside (calls.flatMap Call.processes) workspace.files
        (performAll directory calls workspace).2.files
  | [], _, opens, _ => .nothing opens
  | call :: calls, workspace, opens, unlinked => by
    have first := processed_perform opens (unlinked call List.mem_cons_self)
    have later := processed_performAll directory calls (perform directory call workspace).2 first.opens
      fun call' mem family about =>
        first.unlinked family.artifact (unlinked call' (List.mem_cons_of_mem call mem) family about)
    exact first.trans later

/-- What can be read at a name after some calls: the chain of the last family of the name that was processed, if a
file can be written there, and otherwise what could be read before. -/
def artifactAfter (directory : String) (before : FileSystem) (calls : List Call) (name : String) :
    Except FileError ByteArray :=
  match before.create (Path.join directory name), lastWriter (calls.flatMap Call.processes) name with
  | .ok _, some family => .ok family.render.toByteArray
  | _, _ => before.read (Path.join directory name)

def Answer.IsFailure : Answer → Prop
  | .failed _ | .failures _ => True
  | .generated _ | .checked _ | .stale _ => False

theorem read_of_processed {calls : List Call} {before after : FileSystem} (opens : before.Opens directory spare inside)
    (processed : Processed directory spare inside (calls.flatMap Call.processes) before after)
    (isName : IsArtifactName name) (ordinary : IsOrdinary directory name (before.lookup (inside ++ [name]))) :
    after.read (Path.join directory name) = artifactAfter directory before calls name := by
  have stands := processed.stands name ordinary
  have unchanged (same : after.lookup (inside ++ [name]) = before.lookup (inside ++ [name])) :
      after.read (Path.join directory name) = before.read (Path.join directory name) := by
    rw [FileSystem.read, FileSystem.read, locate?_congr_of_isUnlinked opens isName processed.opens ordinary.1 same]
  unfold artifactAfter
  cases created : before.create (Path.join directory name) with
  | error error =>
    have blocked := (create_eq_error_iff opens isName ordinary.1).1 created
    exact unchanged (stands.trans (leaves_of_obstacle blocked _))
  | ok opened =>
    have free : obstacle directory name (before.lookup (inside ++ [name])) = none := by
      refine Option.eq_none_iff_forall_ne_some.2 fun error blocked => ?_
      rw [(create_eq_error_iff opens isName ordinary.1).2 blocked] at created
      cases created
    cases last : lastWriter (calls.flatMap Call.processes) name with
    | none => exact unchanged (stands.trans (leaves_of_no_writer last))
    | some family =>
      exact read_of_file processed.opens isName (accepted_of_obstacle_none free)
        (stands.trans (leaves_of_writer free last))

theorem perform_of_obstacle {call : Call} {workspace : Workspace} {error : FileError}
    (opens : workspace.files.Opens directory spare inside)
    (unlinked : ∀ family ∈ call.mentions,
      IsUnlinked directory family.artifact (workspace.files.lookup (inside ++ [family.artifact])))
    (generates : family ∈ call.generates)
    (blocked : obstacle directory family.artifact (workspace.files.lookup (inside ++ [family.artifact])) = some error) :
    (perform directory call workspace).1.IsFailure ∧
      (family ∈ call.processes →
        Reports call (perform directory call workspace).1 family (.file (family.artifactPath directory) error)) ∧
      (call = .generate family → (perform directory call workspace).2.files = workspace.files) := by
  cases call with
  | generate family' =>
    obtain rfl := List.mem_singleton.1 generates
    obtain ⟨answer, files⟩ := Workspace.generate_of_obstacle opens blocked
    rw [perform_generate, answer]
    exact ⟨trivial, fun _ => .alone, fun _ => files⟩
  | generateCatalogue families =>
    refine and_assoc.1 ⟨?_, fun alone => by cases alone⟩
    rw [perform_generateCatalogue]
    by_cases distinct : (families.map Family.artifact).Nodup
    · obtain ⟨-, failed⟩ := Catalogue.processed_processEach families workspace opens unlinked
      have reported : ⟨family.artifact, .file (family.artifactPath directory) error⟩ ∈
          Catalogue.failures (Catalogue.processEach (Workspace.generate directory) families workspace).1 :=
        Catalogue.mem_failures_iff.2 ⟨family, failed family generates error blocked, rfl⟩
      rw [Catalogue.generate_eq distinct, Catalogue.summary, if_neg (List.ne_nil_of_mem reported)]
      exact ⟨trivial, fun _ => .among generates reported⟩
    · obtain ⟨_, _, repeats⟩ := exists_repeatsFirstAt distinct
      rw [Catalogue.generate_of_repeats repeats, Call.processes, if_neg distinct]
      exact ⟨trivial, fun processed => absurd processed List.not_mem_nil⟩
  | check _ | checkCatalogue _ => cases generates

theorem checked_true_iff (directory : String) (family : Family) (workspace : Workspace) :
    (perform directory (.check family) workspace).1 = .checked true ↔
      workspace.files.read (family.artifactPath directory) = .ok family.render.toByteArray := by
  rw [perform_check, Workspace.check_eq, ← Workspace.checked_eq_true_iff]
  cases Workspace.checked directory workspace.files family <;> simp [answered]

/-- **A run is a map from names to chains in which the last writer wins.**  The output directory exists, and no link
stands at the path of an artifact that the calls are about.  Then after any calls a name, unless it is the device, holds
the chain of the last family of that name that was processed, and what it held before if there is none, or if no file
can be written there.  A call that would write where no file can be written fails and leaves what stands there, and a
call that processes no family, such as a catalogue in which two families share an artifact, changes nothing.  A family
is up to date exactly if the map holds its chain. -/
theorem performAll_refines (directory : String) (calls : List Call) (workspace : Workspace)
    (enterable : directory = "" ∨ workspace.files.isDirectory directory = true)
    (unlinked : ∀ call ∈ calls, ∀ family ∈ call.mentions, workspace.files.Unlinked (family.artifactPath directory)) :
    let before := workspace.files
    let now := (performAll directory calls workspace).2
    (∀ name, IsArtifactName name → before.Unlinked (Path.join directory name) →
      before.BehindLinks (Path.join directory name) →
      now.files.read (Path.join directory name) = artifactAfter directory before calls name) ∧
    (∀ call : Call, (∀ family ∈ call.mentions, before.Unlinked (family.artifactPath directory)) →
      ∀ family ∈ call.generates, ∀ error, before.create (family.artifactPath directory) = .error error →
        let next := perform directory call now
        next.1.IsFailure ∧
        (family ∈ call.processes → Reports call next.1 family (.file (family.artifactPath directory) error)) ∧
        (call = .generate family → next.2.files = now.files) ∧
        ∀ purpose, next.2.files.locate? purpose (family.artifactPath directory) =
          before.locate? purpose (family.artifactPath directory)) ∧
    (∀ call : Call, call.processes = [] → (perform directory call now).2.files = now.files) ∧
    (∀ family : Family, before.Unlinked (family.artifactPath directory) →
      before.BehindLinks (family.artifactPath directory) →
      ((perform directory (.check family) now).1 = .checked true ↔
        artifactAfter directory before calls family.artifact = .ok family.render.toByteArray)) := by
  intro before now
  obtain ⟨spare, inside, opens⟩ : ∃ spare inside, before.Opens directory spare inside := opens_of_isDirectory enterable
  have unlinked_of (family : Family) (unlinked : before.Unlinked (family.artifactPath directory)) :=
    isUnlinked_of_unlinked opens family.artifact_name unlinked
  have processed : Processed directory spare inside (calls.flatMap Call.processes) before now.files :=
    processed_performAll directory calls workspace opens fun call mem family about =>
      unlinked_of family (unlinked call mem family about)
  refine ⟨fun name isName unlinked behind => ?_, fun call unlinked family generates error refused => ?_,
    fun call none => files_perform_of_processes_nil none now, fun family unlinked behind => ?_⟩
  · exact read_of_processed opens processed isName (isOrdinary_of_unlinked opens isName unlinked behind)
  · have about : family ∈ call.mentions := call.mentions_of_generates generates
    have unlinked_before := unlinked_of family (unlinked family about)
    have unlinked_now := fun family about => processed.unlinked _ (unlinked_of family (unlinked family about))
    have blocked := (create_eq_error_iff opens family.artifact_name unlinked_before).1 refused
    obtain ⟨fails, reports, files⟩ := perform_of_obstacle processed.opens unlinked_now generates
      (by rw [processed.lookup_of_obstacle blocked, blocked])
    have processed_next := processed.trans (processed_perform processed.opens unlinked_now)
    exact ⟨fails, reports, files, locate?_congr_of_isUnlinked opens family.artifact_name processed_next.opens
      unlinked_before (processed_next.lookup_of_obstacle blocked)⟩
  · have ordinary := isOrdinary_of_unlinked opens family.artifact_name unlinked behind
    rw [checked_true_iff, ← read_of_processed opens processed family.artifact_name ordinary]
    rfl

def swapAgain : Family := { Family.swap with handler := "arm_swap", handler_identifier := by decide +kernel }

/-- The first family is written over, and the catalogue in which both occur leaves no trace. -/
theorem swapAgain_refines :
    let calls := [.generate .swap, .generate swapAgain, .generateCatalogue [swapAgain, .swap]]
    let now := (performAll "" calls ⟨FileSystem.scratch, .empty none⟩).2
    now.files.read "SWP_INSTR.gencpp" = .ok swapAgain.render.toByteArray ∧
      (perform "" (.check swapAgain) now).1 = .checked true := by
  intro calls now
  have vacant : FileSystem.scratch.locate? .inspect "SWP_INSTR.gencpp" =
      .ok (.vacant ["scratch"] "SWP_INSTR.gencpp") := by rfl
  have unlinked : FileSystem.scratch.Unlinked "SWP_INSTR.gencpp" := by
    intro location target
    rw [vacant]
    simp
  have behind : FileSystem.scratch.BehindLinks "SWP_INSTR.gencpp" := by
    intro location
    rw [vacant]
    simp
  have named : ∀ call ∈ calls, ∀ family ∈ call.mentions, family.artifactPath "" = "SWP_INSTR.gencpp" := by
    decide +kernel
  have refines := performAll_refines "" calls ⟨FileSystem.scratch, .empty none⟩ (.inl rfl)
    fun call mem family about => (named call mem family about).symm ▸ unlinked
  have holds : artifactAfter "" FileSystem.scratch calls "SWP_INSTR.gencpp" = .ok swapAgain.render.toByteArray := by
    rfl
  have read := refines.1 "SWP_INSTR.gencpp" (by decide +kernel) unlinked behind
  exact ⟨read.trans holds, (refines.2.2.2 swapAgain unlinked behind).2 holds⟩

end Session

end DispatchChain
