import DispatchChain.Proofs.Checking
import DispatchChain.Proofs.Renewal
/-!
# Separation — families that are generated together do not affect one another

The artifacts of a catalogue have different names, so each family renews an entry of its own, and reads no entry that
another one renews: the way into the directory stays open (`FileSystem.samePassages_renew`), and links lead to the
device only.  Hence a catalogue does what its families do alone, in any order (`Catalogue.generate_separately`).
-/
namespace DispatchChain

namespace FileSystem

variable {fs : FileSystem} {location : Location} {entry : Option Entry}
  {changes changes' : List (Location × Option Entry)}

/-- Leaves entries at locations, one after another. -/
def setAll (fs : FileSystem) (changes : List (Location × Option Entry)) : FileSystem :=
  changes.foldl (fun fs change => fs.set change.1 change.2) fs

theorem lookup_setAll_of_kept : ∀ (changes : List (Location × Option Entry)) (fs : FileSystem),
    (∀ change ∈ changes, change.1 ≠ []) →
    (∀ change ∈ changes, change.1 = location → change.2 = fs.lookup location) →
      (fs.setAll changes).lookup location = fs.lookup location
  | [], _, _, _ => rfl
  | change :: changes, fs, below, kept => by
    have first : (fs.set change.1 change.2).lookup location = fs.lookup location := by
      rw [lookup_set _ _ _ (below change List.mem_cons_self)]
      by_cases here : location = change.1
      · rw [if_pos here, kept change List.mem_cons_self here.symm]
      · rw [if_neg here]
    rw [← first]
    refine lookup_setAll_of_kept changes (fs.set change.1 change.2)
      (fun other mem => below other (List.mem_cons_of_mem change mem)) fun other mem here => ?_
    rw [first, kept other (List.mem_cons_of_mem change mem) here]

theorem lookup_setAll_of_mem : ∀ (changes : List (Location × Option Entry)) (fs : FileSystem),
    (∀ change ∈ changes, change.1 ≠ []) → (changes.map Prod.fst).Nodup → (location, entry) ∈ changes →
      (fs.setAll changes).lookup location = entry
  | change :: changes, fs, below, distinct, mem => by
    rw [List.map_cons, List.nodup_cons] at distinct
    have below' : ∀ other ∈ changes, other.1 ≠ [] := fun other mem => below other (List.mem_cons_of_mem change mem)
    rcases List.mem_cons.1 mem with rfl | mem
    · have last : ∀ other ∈ changes, other.1 = location → other.2 = (fs.set location entry).lookup location :=
        fun other mem here => absurd (List.mem_map.2 ⟨other, mem, here⟩) distinct.1
      refine (lookup_setAll_of_kept changes (fs.set location entry) below' last).trans ?_
      rw [lookup_set _ _ _ (below _ List.mem_cons_self), if_pos rfl]
    · exact lookup_setAll_of_mem changes (fs.set change.1 change.2) below' distinct.2 mem

/-- **Entries at different locations can be left in any order.** -/
theorem setAll_perm (perm : changes.Perm changes') (distinct : (changes.map Prod.fst).Nodup) (fs : FileSystem) :
    fs.setAll changes = fs.setAll changes' := by
  refine perm.foldl_eq' (fun change mem change' mem' fs => ?_) fs
  by_cases same : change.1 = change'.1
  · rw [List.inj_on_of_nodup_map distinct mem mem' same]
  · exact set_comm fs same change.2 change'.2

/-- **Families that can be generated side by side**: the directory is entered, and a link at the name of one leads
straight to the device, which is not at the name of another. -/
structure Ready (fs : FileSystem) (directory : String) (families : List Family) (spare : Nat) (inside : Location) :
    Prop where
  opens : fs.Opens directory spare inside
  straight : ∀ family ∈ families, refusal (family.artifactPath directory) family.artifact = none → ∀ target,
    fs.lookup (inside ++ [family.artifact]) = some (.link target) →
      ∃ device, fs.NamesDevice inside target device ∧
        ∀ other ∈ families, refusal (other.artifactPath directory) other.artifact = none →
          inside ++ [other.artifact] ≠ device

variable {directory : String} {family : Family} {families : List Family} {spare : Nat} {inside : Location}

theorem Ready.straight_of_mem (ready : fs.Ready directory families spare inside) (mem : family ∈ families) :
    fs.Straight directory inside family := by
  intro accepted target isLink
  obtain ⟨device, names, -⟩ := ready.straight family mem accepted target isLink
  exact ⟨device, names⟩

theorem lookup_set_name {name other : String} (apart : other ≠ name) (entry : Option Entry) :
    (fs.set (inside ++ [name]) entry).lookup (inside ++ [other]) = fs.lookup (inside ++ [other]) := by
  rw [lookup_set _ _ _ below_root, if_neg (by simp [apart])]

/-- **Once a family is renewed, the others are as ready as before.** -/
theorem Ready.renew (ready : fs.Ready directory (family :: families) spare inside)
    (new : family.artifact ∉ families.map Family.artifact) :
    (fs.set (inside ++ [family.artifact])
      (family.renew directory spare (fs.lookup (inside ++ [family.artifact]))).2).Ready directory families spare
        inside := by
  have passages := samePassages_renew (ready.straight_of_mem List.mem_cons_self) spare
  refine ⟨ready.opens.frame passages, fun other mem accepted target isLink => ?_⟩
  have apart : other.artifact ≠ family.artifact := fun same => new (List.mem_map.2 ⟨other, mem, same⟩)
  rw [lookup_set_name apart] at isLink
  obtain ⟨device, names, far⟩ := ready.straight other (List.mem_cons_of_mem family mem) accepted target isLink
  refine ⟨device, names.frame passages ?_, fun third mem => far third (List.mem_cons_of_mem family mem)⟩
  rw [lookup_set _ _ _ below_root]
  by_cases here : device = inside ++ [family.artifact]
  · cases refusing : refusal (family.artifactPath directory) family.artifact with
    | some error => rw [if_pos here, Family.renew_of_refused refusing, ← here, names.lookup]
    | none => exact absurd here.symm (far family List.mem_cons_self refusing)
  · rw [if_neg here, names.lookup]

end FileSystem

namespace Catalogue

open FileSystem

variable {directory : String} {family : Family} {families : List Family} {spare : Nat} {inside : Location}

/-- The entries that families leave, each by what stood at its own name before. -/
def renewals (directory : String) (spare : Nat) (inside : Location) (fs : FileSystem) (families : List Family) :
    List (Location × Option Entry) :=
  families.map fun family =>
    (inside ++ [family.artifact], (family.renew directory spare (fs.lookup (inside ++ [family.artifact]))).2)

/-- The answers of families, each generated alone. -/
def alone (directory : String) (workspace : Workspace) (families : List Family) :
    List (Family × Except Failure Nat) :=
  families.map fun family => (family, (workspace.generate directory family).1)

/-- **Families that are ready answer as if each were alone**, and leave the entries that each leaves alone. -/
theorem processEach_generate : ∀ (families : List Family) (workspace : Workspace),
    workspace.files.Ready directory families spare inside → (families.map Family.artifact).Nodup →
      let run := processEach (Workspace.generate directory) families workspace
      run.1 = alone directory workspace families ∧
        run.2.files = workspace.files.setAll (renewals directory spare inside workspace.files families) ∧
        run.2.files.Opens directory spare inside
  | [], workspace, ready, _ => ⟨rfl, rfl, ready.opens⟩
  | family :: families, workspace, ready, distinct => by
    rw [List.map_cons, List.nodup_cons] at distinct
    have files := (Workspace.generate_of_opens ready.opens (ready.straight_of_mem List.mem_cons_self)).files
    have ready' := ready.renew distinct.1
    rw [← files] at ready'
    obtain ⟨outcomes, left, opens⟩ :=
      processEach_generate families (workspace.generate directory family).2 ready' distinct.2
    -- What stands at the other names is what stood there before.
    have same : ∀ other ∈ families, (workspace.generate directory family).2.files.lookup (inside ++ [other.artifact]) =
        workspace.files.lookup (inside ++ [other.artifact]) := by
      intro other mem
      rw [files, lookup_set_name fun same => distinct.1 (List.mem_map.2 ⟨other, mem, same⟩)]
    refine ⟨?_, ?_, opens⟩
    · simp only [processEach, outcomes, alone, List.map_cons]
      refine congrArg _ (List.map_congr_left fun other mem => ?_)
      have first := Workspace.generate_of_opens ready'.opens (ready'.straight_of_mem mem)
      have second := Workspace.generate_of_opens ready.opens (ready.straight_of_mem (List.mem_cons_of_mem family mem))
      rw [first.answer, second.answer, same other mem]
    · simp only [processEach, left, renewals, List.map_cons]
      rw [setAll, setAll, List.foldl_cons, ← files]
      exact congrArg (List.foldl _ _) (List.map_congr_left fun other mem => by rw [same other mem])

theorem processEach_generate_closed : ∀ (families : List Family) (workspace : Workspace),
    workspace.files.Closed directory →
      let run := processEach (Workspace.generate directory) families workspace
      run.1 = alone directory workspace families ∧ run.2.files = workspace.files
  | [], _, _ => ⟨rfl, rfl⟩
  | family :: families, workspace, closed => by
    have files : (workspace.generate directory family).2.files = workspace.files :=
      (Workspace.generate_of_closed closed).2
    obtain ⟨outcomes, left⟩ :=
      processEach_generate_closed families (workspace.generate directory family).2 (files.symm ▸ closed)
    refine ⟨?_, left.trans files⟩
    simp only [processEach, outcomes, alone, List.map_cons]
    refine congrArg _ (List.map_congr_left fun other _ => ?_)
    rw [(Workspace.generate_congr files).1]

/-- **A link at the path of an artifact leads straight to the device**, and the device itself is at none of the paths:
it would be removed there, and the link would lead nowhere. -/
def Separate (fs : FileSystem) (directory : String) (families : List Family) : Prop :=
  ∀ family ∈ families, ∀ location target,
    fs.locate? .inspect (family.artifactPath directory) = .ok (.link location target) →
      ∃ device, fs.NamesDevice location.dropLast target device ∧
        ∀ other ∈ families, fs.locate? .inspect (other.artifactPath directory) ≠ .ok (.fullDevice device)

theorem Separate.perm {fs : FileSystem} {families' : List Family} (separate : Separate fs directory families)
    (perm : families.Perm families') : Separate fs directory families' := by
  intro family mem location target looked
  obtain ⟨device, names, far⟩ := separate family (perm.mem_iff.2 mem) location target looked
  exact ⟨device, names, fun other mem' => far other (perm.mem_iff.2 mem')⟩

theorem ready_of_separate {fs : FileSystem} (opens : fs.Opens directory spare inside)
    (separate : Separate fs directory families) : fs.Ready directory families spare inside := by
  refine ⟨opens, fun family mem accepted target isLink => ?_⟩
  have looked : fs.locate? .inspect (family.artifactPath directory) =
      .ok (.standing inside family.artifact (some (.link target))) :=
    isLink ▸ locate?_of_accepted opens family.artifact_name accepted (.inl rfl)
  obtain ⟨device, names, far⟩ := separate family mem _ target looked
  rw [List.dropLast_concat] at names
  refine ⟨device, names, fun other mem' accepted' here => far other mem' ?_⟩
  have stands : fs.lookup (inside ++ [other.artifact]) = some .fullDevice := by rw [here, names.lookup]
  have looked' : fs.locate? .inspect (other.artifactPath directory) =
      .ok (.standing inside other.artifact (some .fullDevice)) :=
    stands ▸ locate?_of_accepted opens other.artifact_name accepted' (.inl rfl)
  rw [looked', ← here]
  rfl

theorem total_eq_sum : ∀ counts : List Nat, total counts = counts.sum
  | [] => rfl
  | count :: counts => by rw [total, List.sum_cons, total_eq_sum counts]

/-- What a catalogue answers, by the answers of its families. -/
def summary (outcomes : List (Family × Except Failure Nat)) : Except (List ArtifactFailure) Nat :=
  if failures outcomes = [] then .ok (total ((results outcomes).map Prod.snd)) else .error (failures outcomes)

theorem generate_eq (distinct : (families.map Family.artifact).Nodup) (workspace : Workspace) :
    generate directory families workspace =
      (summary (processEach (Workspace.generate directory) families workspace).1,
        (processEach (Workspace.generate directory) families workspace).2) := by
  rw [generate, process, requireDistinct_eq_ok_iff.2 distinct, summary]
  simp only
  split <;> rfl

/-- The same answer, but for the order in which failures are told. -/
inductive UpToOrder : Except (List ArtifactFailure) Nat → Except (List ArtifactFailure) Nat → Prop
  | total {clauses} : UpToOrder (.ok clauses) (.ok clauses)
  | failures {failures failures'} : failures.Perm failures' → UpToOrder (.error failures) (.error failures')

theorem summary_perm {outcomes outcomes' : List (Family × Except Failure Nat)} (perm : outcomes.Perm outcomes') :
    UpToOrder (summary outcomes) (summary outcomes') := by
  have failed : (failures outcomes).Perm (failures outcomes') := perm.filterMap _
  have counted : total ((results outcomes).map Prod.snd) = total ((results outcomes').map Prod.snd) := by
    rw [total_eq_sum, total_eq_sum]
    exact ((perm.filterMap _).map Prod.snd).sum_nat
  unfold summary
  by_cases none : failures outcomes = []
  · have none' : failures outcomes' = [] := List.perm_nil.1 (none ▸ failed.symm)
    rw [if_pos none, if_pos none', counted]
    exact .total
  · have some' : failures outcomes' ≠ [] := fun none' => none (List.perm_nil.1 (none' ▸ failed))
    rw [if_neg none, if_neg some']
    exact .failures failed

theorem below_of_mem_renewals {fs : FileSystem} {change : Location × Option Entry}
    (mem : change ∈ renewals directory spare inside fs families) : change.1 ≠ [] := by
  obtain ⟨family, -, rfl⟩ := List.mem_map.1 mem
  exact below_root

theorem nodup_locations_renewals (distinct : (families.map Family.artifact).Nodup) (fs : FileSystem) :
    ((renewals directory spare inside fs families).map Prod.fst).Nodup := by
  have locations : (renewals directory spare inside fs families).map Prod.fst =
      (families.map Family.artifact).map fun name => inside ++ [name] := by
    rw [renewals, List.map_map, List.map_map]
    rfl
  rw [locations]
  exact distinct.map fun name name' same => by simpa using same

section

variable (distinct : (families.map Family.artifact).Nodup) {workspace : Workspace}
  (separate : Separate workspace.files directory families)

include distinct separate

theorem outcomes_eq_alone : (processEach (Workspace.generate directory) families workspace).1 =
    alone directory workspace families := by
  obtain ⟨spare, inside, opens⟩ | closed := opens_or_closed workspace.files directory
  · exact (processEach_generate families workspace (ready_of_separate opens separate) distinct).1
  · exact (processEach_generate_closed families workspace closed).1

/-- **The path of each artifact leads to what it leads to if its family is generated alone.** -/
theorem locate?_processEach (mem : family ∈ families) (purpose : Purpose) :
    (processEach (Workspace.generate directory) families workspace).2.files.locate? purpose
        (family.artifactPath directory) =
      (workspace.generate directory family).2.files.locate? purpose (family.artifactPath directory) := by
  obtain ⟨spare, inside, opens⟩ | closed := opens_or_closed workspace.files directory
  · have ready := ready_of_separate opens separate
    obtain ⟨-, left, opens'⟩ := processEach_generate families workspace ready distinct
    have left_alone := (Workspace.generate_of_opens opens (ready.straight_of_mem mem)).files
    have opens_alone := opens.frame (samePassages_renew (ready.straight_of_mem mem) spare)
    rw [← left_alone] at opens_alone
    have stands := lookup_setAll_of_mem (renewals directory spare inside workspace.files families) workspace.files
      (fun change => below_of_mem_renewals) (nodup_locations_renewals distinct _)
      (List.mem_map.2 ⟨family, mem, rfl⟩)
    rw [← left] at stands
    have stands_alone : (workspace.generate directory family).2.files.lookup (inside ++ [family.artifact]) =
        (family.renew directory spare (workspace.files.lookup (inside ++ [family.artifact]))).2 := by
      rw [left_alone, lookup_set _ _ _ below_root, if_pos rfl]
    exact locate?_renewed opens' opens_alone stands stands_alone purpose
  · rw [(processEach_generate_closed families workspace closed).2, (Workspace.generate_of_closed closed).2]

/-- **Nothing changes but at the paths of the artifacts.** -/
theorem lookup_processEach {location : Location}
    (elsewhere : ∀ family ∈ families, ∀ place,
      workspace.files.locate? .inspect (family.artifactPath directory) = .ok place → place.location ≠ location) :
    (processEach (Workspace.generate directory) families workspace).2.files.lookup location =
      workspace.files.lookup location := by
  obtain ⟨spare, inside, opens⟩ | closed := opens_or_closed workspace.files directory
  · obtain ⟨-, left, -⟩ := processEach_generate families workspace (ready_of_separate opens separate) distinct
    rw [left]
    refine lookup_setAll_of_kept _ _ (fun change => below_of_mem_renewals) fun change mem here => ?_
    obtain ⟨family, listed, rfl⟩ := List.mem_map.1 mem
    cases refusing : refusal (family.artifactPath directory) family.artifact with
    | some error => rw [Family.renew_of_refused refusing, ← here]
    | none =>
      have looked := locate?_of_accepted opens family.artifact_name refusing (.inl rfl)
      exact absurd ((Place.location_standing ..).trans here) (elsewhere family listed _ looked)
  · rw [(processEach_generate_closed families workspace closed).2]

theorem files_processEach_perm {families' : List Family} (perm : families.Perm families') :
    (processEach (Workspace.generate directory) families' workspace).2.files =
      (processEach (Workspace.generate directory) families workspace).2.files := by
  have distinct' : (families'.map Family.artifact).Nodup := (perm.map _).nodup_iff.1 distinct
  have separate' : Separate workspace.files directory families' := separate.perm perm
  obtain ⟨spare, inside, opens⟩ | closed := opens_or_closed workspace.files directory
  · rw [(processEach_generate families workspace (ready_of_separate opens separate) distinct).2.1,
      (processEach_generate families' workspace (ready_of_separate opens separate') distinct').2.1]
    exact (setAll_perm (perm.map _) (nodup_locations_renewals distinct _) _).symm
  · rw [(processEach_generate_closed families workspace closed).2,
      (processEach_generate_closed families' workspace closed).2]

theorem check_processEach {clauses : Nat}
    (succeeds : summary (processEach (Workspace.generate directory) families workspace).1 = .ok clauses) :
    (check directory families (processEach (Workspace.generate directory) families workspace).2).1 = .ok [] := by
  have none_failed : failures (alone directory workspace families) = [] := by
    rw [outcomes_eq_alone distinct separate, summary] at succeeds
    by_contra some_failed
    rw [if_neg some_failed] at succeeds
    cases succeeds
  have fresh : ∀ family ∈ families,
      (processEach (Workspace.generate directory) families workspace).2.files.read (family.artifactPath directory) =
        .ok family.render.toByteArray := by
    intro family mem
    cases answer : (workspace.generate directory family).1 with
    | ok count =>
      have read := Workspace.read_of_generate answer
      rw [FileSystem.read] at read ⊢
      rw [locate?_processEach distinct separate mem, read]
    | error failure =>
      have failed : ⟨family.artifact, failure⟩ ∈ failures (alone directory workspace families) :=
        mem_failures_iff.2 ⟨family, List.mem_map.2 ⟨family, mem, by rw [answer]⟩, rfl⟩
      rw [none_failed] at failed
      cases failed
  rw [check_eq distinct]
  exact checked_eq_ok_nil_iff.2 fresh

end

/-- **The families of a catalogue do not affect one another, and their order does not matter.**  Where links at the
paths of the artifacts lead straight to the device, each family is answered as if it were generated alone, its path
leads to what it would lead to then, and no other entry changes.  So the same families in another order leave the same
files and answer the same total, or the same failures in another order.  Once all succeed, all are up to date. -/
theorem generate_separately (directory : String) (families : List Family) (workspace : Workspace)
    (distinct : (families.map Family.artifact).Nodup) (separate : Separate workspace.files directory families) :
    let before := workspace.files
    let run := generate directory families workspace
    (processEach (Workspace.generate directory) families workspace).1 = alone directory workspace families ∧
    run.1 = summary (alone directory workspace families) ∧
    (∀ family ∈ families, ∀ purpose, run.2.files.locate? purpose (family.artifactPath directory) =
      (workspace.generate directory family).2.files.locate? purpose (family.artifactPath directory)) ∧
    (∀ location,
      (∀ family ∈ families, ∀ place,
        before.locate? .inspect (family.artifactPath directory) = .ok place → place.location ≠ location) →
      run.2.files.lookup location = before.lookup location) ∧
    (∀ families', families.Perm families' →
      (generate directory families' workspace).2.files = run.2.files ∧
        UpToOrder run.1 (generate directory families' workspace).1) ∧
    (∀ clauses, run.1 = .ok clauses → (check directory families run.2).1 = .ok []) := by
  intro before run
  have run_eq : run = _ := generate_eq distinct workspace
  have outcomes := outcomes_eq_alone distinct separate
  rw [run_eq]
  refine ⟨outcomes, congrArg summary outcomes, fun family mem => locate?_processEach distinct separate mem,
    fun location => lookup_processEach distinct separate, fun families' perm => ?_,
    fun clauses => check_processEach distinct separate⟩
  have distinct' : (families'.map Family.artifact).Nodup := (perm.map _).nodup_iff.1 distinct
  have separate' : Separate before directory families' := separate.perm perm
  rw [generate_eq distinct']
  refine ⟨files_processEach_perm distinct separate perm, ?_⟩
  rw [outcomes, outcomes_eq_alone distinct' separate']
  exact summary_perm (perm.map _)

def swapElsewhere : Family :=
  { Family.swap with artifact := "SWPB_INSTR.gencpp", artifact_name := by decide +kernel }

/-- One artifact is on the device and fails, and the other is generated, in either order. -/
theorem linked_generate_separately :
    (generate "" [.swap, swapElsewhere] (.linked "/dev/full")).1 =
        .error [⟨"SWP_INSTR.gencpp", .file "SWP_INSTR.gencpp" .deviceFull⟩] ∧
      (generate "" [swapElsewhere, .swap] (.linked "/dev/full")).2.files =
        (generate "" [.swap, swapElsewhere] (.linked "/dev/full")).2.files ∧
      (generate "" [.swap, swapElsewhere] (.linked "/dev/full")).2.files.locate? .openExisting "SWPB_INSTR.gencpp" =
        .ok (.file ["scratch", "SWPB_INSTR.gencpp"] swapElsewhere.render.toByteArray) := by
  have swap : (Workspace.linked "/dev/full").files.locate? .inspect (Family.swap.artifactPath "") =
      .ok (.link ["scratch", "SWP_INSTR.gencpp"] "/dev/full") := by rfl
  have elsewhere : (Workspace.linked "/dev/full").files.locate? .inspect (swapElsewhere.artifactPath "") =
      .ok (.vacant ["scratch"] "SWPB_INSTR.gencpp") := by rfl
  have separate : Separate (Workspace.linked "/dev/full").files "" [.swap, swapElsewhere] := by
    intro family mem location target looked
    simp only [List.mem_cons, List.not_mem_nil, or_false] at mem
    rcases mem with rfl | rfl
    · rw [swap] at looked; cases looked
      refine ⟨["dev", "full"], by rfl, fun other mem => ?_⟩
      simp only [List.mem_cons, List.not_mem_nil, or_false] at mem
      rcases mem with rfl | rfl
      · rw [swap]; simp
      · rw [elsewhere]; simp
    · rw [elsewhere] at looked; cases looked
  have apart := generate_separately "" [.swap, swapElsewhere] (.linked "/dev/full") (by decide +kernel) separate
  refine ⟨by decide +kernel, (apart.2.2.2.2.1 [swapElsewhere, .swap] (.swap ..)).1, ?_⟩
  exact (apart.2.2.1 swapElsewhere (by simp) .openExisting).trans (by with_unfolding_all rfl)

/-- Each link at the path of an artifact leads straight to the device, which may itself be at another of the paths. -/
def StraightLinks (fs : FileSystem) (directory : String) (families : List Family) : Prop :=
  ∀ family ∈ families, ∀ location target,
    fs.locate? .inspect (family.artifactPath directory) = .ok (.link location target) →
      ∃ device, fs.NamesDevice location.dropLast target device

/-- The family of the swap instructions, with the name of the device for its artifact. -/
def swapOnDevice : Family := { Family.swap with artifact := "full", artifact_name := by decide +kernel }

/-- The family of the swap instructions, with an artifact beside the device. -/
def swapBesideDevice : Family := { Family.swap with artifact := "x", artifact_name := by decide +kernel }

/-- The output directory leads to the device's own directory, where a link leads to the device. -/
def besideDevice : Workspace :=
  ⟨(FileSystem.scratch.put ["scratch", "out"] (.link "/dev")).put ["dev", "x"] (.link "/dev/full"), .empty none⟩

/-- **A family whose artifact is the device itself affects one whose artifact is a link to it**: it fails and removes
the device, and then the other is generated, which fails alone and in the other order. -/
theorem device_interferes :
    let families := [swapOnDevice, swapBesideDevice]
    let run := generate "out" families besideDevice
    let reversed := generate "out" [swapBesideDevice, swapOnDevice] besideDevice
    (families.map Family.artifact).Nodup ∧ StraightLinks besideDevice.files "out" families ∧
      (processEach (Workspace.generate "out") families besideDevice).1 ≠ alone "out" besideDevice families ∧
      run.1 = .error [⟨"full", .file "out/full" .deviceFull⟩] ∧
      reversed.1 = .error [⟨"x", .file "out/x" .deviceFull⟩, ⟨"full", .file "out/full" .deviceFull⟩] ∧
      ¬ UpToOrder run.1 reversed.1 ∧ run.2.files ≠ reversed.2.files := by
  have onDevice : (besideDevice.files.locate? .inspect (swapOnDevice.artifactPath "out")).map Place.location =
      .ok ["dev", "full"] := by decide +kernel
  have beside : (besideDevice.files.locate? .inspect (swapBesideDevice.artifactPath "out")).map Place.location =
      .ok ["dev", "x"] := by decide +kernel
  have forward : (generate "out" [swapOnDevice, swapBesideDevice] besideDevice).1 =
      .error [⟨"full", .file "out/full" .deviceFull⟩] := by decide +kernel
  have backward : (generate "out" [swapBesideDevice, swapOnDevice] besideDevice).1 =
      .error [⟨"x", .file "out/x" .deviceFull⟩, ⟨"full", .file "out/full" .deviceFull⟩] := by decide +kernel
  refine ⟨by decide +kernel, ?_, ?_, forward, backward, ?_, ?_⟩
  · intro family mem location target looked
    have stands := lookup_of_locate?_link looked
    simp only [List.mem_cons, List.not_mem_nil, or_false] at mem
    rcases mem with rfl | rfl
    · have device : besideDevice.files.lookup ["dev", "full"] = some .fullDevice := by rfl
      rw [looked] at onDevice; cases onDevice
      rw [device] at stands; cases stands
    · have link : besideDevice.files.lookup ["dev", "x"] = some (.link "/dev/full") := by rfl
      rw [looked] at beside; cases beside
      rw [link] at stands; cases stands
      exact ⟨["dev", "full"], by rfl⟩
  · intro same
    have failed := congrArg failures same
    revert failed
    decide +kernel
  · intro same
    rw [forward, backward] at same
    cases same with
    | failures perm => exact absurd perm.length_eq (by decide)
  · intro same
    have read := congrArg (fun files => files.read "out/x") same
    revert read
    decide +kernel

end Catalogue

end DispatchChain
