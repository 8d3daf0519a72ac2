import DispatchChain.Proofs.Absence
import DispatchChain.Proofs.Checking
/-!
# Freshness — an artifact is up to date exactly if it is the chain, byte for byte

What a path holds is told by the way it takes and what stands there (`FileSystem.HoldsFile`), and what is read is what
it holds.  A check answers by comparing these bytes with those of the chain, whatever text they are or are not
(`Workspace.check_compares_bytes`).
-/
namespace DispatchChain

/-- **Bytes differ at some position**, where one of them may have ended. -/
theorem bytes_ne_iff {bytes other : ByteArray} :
    bytes ≠ other ↔ ∃ position : Nat, bytes[position]? ≠ other[position]? := by
  constructor
  · intro apart
    by_contra same
    push Not at same
    exact apart (ByteArray.ext (Array.ext_getElem? same))
  · rintro ⟨position, apart⟩ rfl
    exact apart rfl

namespace FileSystem

variable {fs : FileSystem} {path : String} {bytes : ByteArray}

/-- The path leads to a file with these bytes. -/
def HoldsFile (fs : FileSystem) (path : String) (bytes : ByteArray) : Prop :=
  ∃ parent name, fs.LeadsTo .openExisting path parent name ∧ fs.lookup (parent ++ [name]) = some (.file bytes)

/-- **What is read is what the path holds.** -/
theorem read_eq_ok_iff : fs.read path = .ok bytes ↔ fs.HoldsFile path bytes := by
  constructor
  · intro reads
    cases located : fs.locate? .openExisting path with
    | error error => rw [read, located] at reads; cases reads
    | ok place =>
      cases place with
      | file location held =>
        rw [read, located] at reads; cases reads
        obtain ⟨parent, name, leads, there⟩ := leadsTo_of_locate? located (by simp) (.inr (by simp))
        exact ⟨parent, name, leads, (Place.of_eq_standing there).2⟩
      | _ => rw [read, located] at reads; cases reads
  · rintro ⟨parent, name, leads, isFile⟩
    rw [read, locate?_of_leadsTo leads isFile (.inr (by simp))]
    rfl

end FileSystem

namespace Workspace

/-- **An artifact is up to date exactly if it is a file with the bytes of the chain.**  It is out of date if the file
differs from the chain at some position, be it that one of them ends there, or if nothing is found: the directory is
missing, or the artifact, or what a link in its place leads to.  Whatever else stands in the way of reading it is
answered, with the path.  No file is changed. -/
theorem check_compares_bytes (directory : String) (family : Family) (workspace : Workspace) :
    let path := family.artifactPath directory
    let files := workspace.files
    let chain := family.render.toByteArray
    let answer := (workspace.check directory family).1
    (answer = .ok true ↔ files.HoldsFile path chain) ∧
    (answer = .ok false ↔
      (∃ bytes, files.HoldsFile path bytes ∧ ∃ position : Nat, bytes[position]? ≠ chain[position]?) ∨
        files.read path = .error .notFound) ∧
    (files.read path = .error .notFound ↔
      '\x00' ∉ path.toList ∧ ¬ FileSystem.maxPath < path.utf8ByteSize ∧ files.Missing directory family.artifact) ∧
    (∀ failure, answer = .error failure ↔
      ∃ error, files.read path = .error error ∧ error ≠ .notFound ∧ failure = .file path error) ∧
    (workspace.check directory family).2.files = files := by
  intro path files chain answer
  have checks : answer = checked directory files family := by
    rw [show answer = (workspace.check directory family).1 from rfl, check_eq]
  refine ⟨?_, ?_, FileSystem.read_join_eq_notFound_iff family.artifact_name, fun failure => ?_, files_check ..⟩
  · rw [checks, checked_eq_true_iff]
    exact FileSystem.read_eq_ok_iff
  · rw [checks, checked_eq_false_iff, Family.OutOfDate, or_comm]
    simp only [FileSystem.read_eq_ok_iff, bytes_ne_iff]
    rfl
  · rw [checks, checked_eq_error_iff]
    simp only [Family.Unreadable, and_assoc]
    rfl

/-- A link to nothing is out of date, but a link to itself is a failure. -/
example : ((linked "made").check "" .swap).1 = .ok false ∧
    ((linked "SWP_INSTR.gencpp").check "" .swap).1 = .error (.file "SWP_INSTR.gencpp" .tooManyLinks) := by
  decide +kernel

end Workspace

end DispatchChain
