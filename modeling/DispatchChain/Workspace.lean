import DispatchChain.Chain
import DispatchChain.Failure
import DispatchChain.FileSystem.OpenFile
/-!
# Workspace — generating and checking artifacts in a directory

A workspace is a file system with a log of what is done in it.  The artifact of a family is the file
of its name in the output directory.  Generating replaces it by the family's chain and, should the
writing fail, removes it, so that no part of a chain is ever left behind.  Checking compares it with
the chain byte for byte; an artifact that does not exist is out of date.
-/
namespace DispatchChain

/-- A file system and the log kept while working in it. -/
structure Workspace where
  files : FileSystem
  log : Log

def Family.artifactPath (directory : String) (family : Family) : String :=
  Path.join directory family.artifact

namespace Workspace

def note (workspace : Workspace) (level : Level) (message : String) : Workspace :=
  { workspace with log := workspace.log.note level message }

/-- Removes what was written of an artifact, or notes that it cannot be removed. -/
def discard (path : String) (workspace : Workspace) : Workspace :=
  match workspace.files.unlink path with
  | .ok files => { workspace with files }
  | .error error => workspace.note .warn s!"Failed to remove partial artifact {path}: {error.message}"

/-- Generates the artifact of a family, in place of what was there.  Answers the number of clauses. -/
def generate (directory : String) (family : Family) (workspace : Workspace) :
    Except Failure Nat × Workspace :=
  let path := family.artifactPath directory
  let workspace := workspace.note .debug s!"Generating {path} for {family.text}"
  match workspace.files.create path with
  | .error error => (.error (.file path error), workspace)
  | .ok (file, files) =>
    let (result, log, written) := family.writeChain workspace.log (BufferedFile.ofFile file)
    let workspace : Workspace := ⟨files.store written.file, log⟩
    match result with
    | .ok clauses => (.ok clauses, workspace.note .info s!"Wrote {clauses} clauses to {path}")
    | .error error => (.error (.file path error), workspace.discard path)

/-- Whether the artifact of a family is what would be generated now. -/
def check (directory : String) (family : Family) (workspace : Workspace) :
    Except Failure Bool × Workspace :=
  let path := family.artifactPath directory
  match workspace.files.read path with
  | .error .notFound => (.ok false, workspace)
  | .error error => (.error (.file path error), workspace)
  | .ok bytes =>
    let (chain, log) := family.renderLogged workspace.log
    (.ok (bytes == chain.toByteArray), { workspace with log })

end Workspace

end DispatchChain
