import DispatchChain.Proofs.Declaring
import DispatchChain.Proofs.Entering
import DispatchChain.Proofs.Generation
/-!
# Placement — where the artifacts of a directory are

The path of an artifact is the directory's with one name behind it, so what it leads to is the entry of that name in the
directory (`FileSystem.location_of_locate?_join`), and different names have different paths.  No name leads out of the
directory or up from it (`Family.artifacts_inside_and_apart`).
-/
namespace DispatchChain

namespace Path

variable {directory name other : String}

theorem join_eq_append (isName : IsArtifactName name) (directory : String) :
    join directory name =
      directory ++ (if directory = "" ∨ directory.toList.getLast? = some '/' then "" else "/") ++ name := by
  have slashed : (directory = "" || endsInSlash directory) = true ↔
      directory = "" ∨ directory.toList.getLast? = some '/' := by
    rw [Bool.or_eq_true, decide_eq_true_iff, endsInSlash, beq_iff_eq]
  rw [join_of_isArtifactName isName]
  simp only [slashed]
  split
  · rw [String.append_empty]
  · rfl

theorem exists_join_eq_append (isName : IsArtifactName name) (directory : String) :
    ∃ more, join directory name = directory ++ more :=
  ⟨_, (join_eq_append isName directory).trans String.append_assoc⟩

/-- **Different names have different paths in a directory.** -/
theorem join_eq_join_iff (isName : IsArtifactName name) (isName' : IsArtifactName other) :
    join directory name = join directory other ↔ name = other := by
  rw [join_eq_append isName, join_eq_append isName', String.append_right_inj]

theorem steps_of_isArtifactName (isName : IsArtifactName name) : steps name = [.down name] := by
  have alone := steps_join isName ""
  rw [join_of_isArtifactName isName] at alone
  simpa [entering, pieces, step?] using alone

end Path

namespace FileSystem

variable {fs : FileSystem} {directory name : String} {place : Place}

/-- Where the entries of a directory are: where its path leads, or the working directory if it has none. -/
def Inside (fs : FileSystem) (directory : String) (inside : Location) : Prop :=
  if directory = "" then inside = fs.here else fs.locate? .openExisting directory = .ok (.directory inside)

theorem Inside.unique {inside inside' : Location} (is : fs.Inside directory inside)
    (is' : fs.Inside directory inside') :
    inside = inside' := by
  unfold Inside at is is'
  by_cases empty : directory = ""
  · rw [if_pos empty] at is is'
    rw [is, is']
  · rw [if_neg empty] at is is'
    rw [is] at is'
    cases is'
    rfl

/-- **What the path of a name leads to is the entry of the name in the directory.** -/
theorem location_of_locate?_join (isName : IsArtifactName name)
    (located : fs.locate? .inspect (Path.join directory name) = .ok place) :
    ∃ inside, fs.Inside directory inside ∧ place.location = inside ++ [name] := by
  obtain ⟨spare, inside, opens⟩ := opens_of_locate?_join isName located
  have accepted : refusal (Path.join directory name) name = none := by
    cases refusing : refusal (Path.join directory name) name with
    | none => rfl
    | some error =>
      rw [locate?_of_refused opens isName refusing] at located
      cases located
  rw [locate?_of_accepted opens isName accepted (.inl rfl)] at located
  cases located
  refine ⟨inside, ?_, Place.location_standing ..⟩
  unfold Inside
  by_cases empty : directory = ""
  · subst empty
    rw [if_pos rfl]
    cases opens
    rfl
  · -- A path that may be followed has only such paths before it.
    obtain ⟨more, longer⟩ := Path.exists_join_eq_append isName directory
    rw [if_neg empty]
    rw [refusal, longer] at accepted
    have nul_free : '\x00' ∉ directory.toList := by
      intro nul
      rw [if_pos (by rw [String.toList_append]; exact List.mem_append_left _ nul)] at accepted
      cases accepted
    have short : ¬ maxPath < directory.utf8ByteSize := by
      intro long
      have longer : maxPath < (directory ++ more).utf8ByteSize := by
        rw [String.utf8ByteSize_append]
        omega
      rw [if_pos longer] at accepted
      split at accepted <;> cases accepted
    exact locate?_of_opens opens nul_free empty short

end FileSystem

namespace Family

/-- **Artifacts stay inside their directory, and apart from one another.**  The path of an artifact is the directory, a
slash unless the directory is empty or ends in one, and the name, which is one step down: neither nothing nor a step
within paths, and no path from the root, so that the path is one from the root exactly if the directory is.  Whatever
the path leads to is the entry of the name in the directory.  Two paths are the same exactly if the names are, and so
are the entries that they lead to; so a catalogue is accepted exactly if the paths of its artifacts are distinct. -/
theorem artifacts_inside_and_apart (directory : String) (family other : Family) :
    let name := family.artifact
    let path := family.artifactPath directory
    let path' := other.artifactPath directory
    path = directory ++ (if directory = "" ∨ directory.toList.getLast? = some '/' then "" else "/") ++ name ∧
    (Path.pieces name = [name] ∧ name ≠ "" ∧ name ≠ "." ∧ name ≠ ".." ∧ Path.steps name = [.down name] ∧
      Path.steps path = Path.entering directory ++ [.down name]) ∧
    (Path.fromRoot name = false ∧ Path.fromRoot path = Path.fromRoot directory) ∧
    (∀ (fs : FileSystem) place, fs.locate? .inspect path = .ok place →
      ∃ inside, fs.Inside directory inside ∧ place.location = inside ++ [name] ∧
        ∀ place', fs.locate? .inspect path' = .ok place' →
          (place.location = place'.location ↔ name = other.artifact)) ∧
    (path = path' ↔ name = other.artifact) ∧
    ∀ families, Catalogue.requireDistinct families = .ok () ↔ (families.map (artifactPath directory)).Nodup := by
  intro name path path'
  have isName : IsArtifactName name := family.artifact_name
  have isName' : IsArtifactName other.artifact := other.artifact_name
  refine ⟨Path.join_eq_append isName directory, ?_, ?_, fun fs place located => ?_,
    Path.join_eq_join_iff isName isName', fun families => ?_⟩
  · exact ⟨Path.pieces_of_isArtifactName isName, isName.1, isName.2.1, isName.2.2.1,
      Path.steps_of_isArtifactName isName, Path.steps_join isName directory⟩
  · exact ⟨Path.fromRoot_of_isArtifactName isName, Path.fromRoot_join isName directory⟩
  · obtain ⟨inside, is, there⟩ := FileSystem.location_of_locate?_join isName located
    refine ⟨inside, is, there, fun place' located' => ?_⟩
    obtain ⟨inside', is', there'⟩ := FileSystem.location_of_locate?_join isName' located'
    rw [there, there', is.unique is']
    simp [name]
  · have paths : families.map (artifactPath directory) = (families.map artifact).map (Path.join directory) := by
      rw [List.map_map]
      rfl
    have named : ∀ name ∈ families.map artifact, IsArtifactName name := by
      intro name mem
      obtain ⟨family, -, rfl⟩ := List.mem_map.1 mem
      exact family.artifact_name
    rw [Catalogue.requireDistinct_eq_ok_iff, paths]
    refine ⟨fun distinct => distinct.map_on fun a mem b mem' same => ?_, List.Nodup.of_map _⟩
    exact (Path.join_eq_join_iff (named a mem) (named b mem')).1 same

/-- The family of the swap instructions, with a name that starts as the step up is spelled. -/
def swapDotted : Family := { swap with artifact := "...", artifact_name := by decide +kernel }

/-- From the root, from above and from the working directory, three dots are the name of an entry. -/
theorem dotted_inside_and_apart :
    swapDotted.artifactPath "/" = "/..." ∧
      Path.steps (swapDotted.artifactPath "..") = [.up, .down "..."] ∧
      swapDotted.artifactPath "" ≠ swap.artifactPath "" ∧
      ∃ inside, (Workspace.linked "/dev/full").files.Inside "" inside ∧ ["scratch", "..."] = inside ++ ["..."] := by
  refine ⟨(artifacts_inside_and_apart "/" swapDotted swap).1,
    (artifacts_inside_and_apart ".." swapDotted swap).2.1.2.2.2.2.2, ?_, ?_⟩
  · exact mt (artifacts_inside_and_apart "" swapDotted swap).2.2.2.2.1.1 (by decide +kernel)
  · have vacant : (Workspace.linked "/dev/full").files.locate? .inspect (swapDotted.artifactPath "") =
        .ok (.vacant ["scratch"] "...") := by rfl
    obtain ⟨inside, is, there, -⟩ := (artifacts_inside_and_apart "" swapDotted swap).2.2.2.1 _ _ vacant
    exact ⟨inside, is, there⟩

end Family

end DispatchChain
