import DispatchChain.Catalogue
/-!
# Session — calls made one after another on one output directory
-/
namespace DispatchChain

namespace Session

inductive Call
  | generate (family : Family)
  | check (family : Family)
  | generateCatalogue (families : List Family)
  | checkCatalogue (families : List Family)
deriving DecidableEq

inductive Answer
  | generated (clauses : Nat)
  | checked (fresh : Bool)
  | stale (artifacts : List String)
  | failed (failure : Failure)
  | failures (failures : List ArtifactFailure)
deriving DecidableEq, Repr

def perform (directory : String) (call : Call) (workspace : Workspace) : Answer × Workspace :=
  match call with
  | .generate family =>
    match workspace.generate directory family with
    | (.ok clauses, workspace) => (.generated clauses, workspace)
    | (.error failure, workspace) => (.failed failure, workspace)
  | .check family =>
    match workspace.check directory family with
    | (.ok fresh, workspace) => (.checked fresh, workspace)
    | (.error failure, workspace) => (.failed failure, workspace)
  | .generateCatalogue families =>
    match Catalogue.generate directory families workspace with
    | (.ok clauses, workspace) => (.generated clauses, workspace)
    | (.error failures, workspace) => (.failures failures, workspace)
  | .checkCatalogue families =>
    match Catalogue.check directory families workspace with
    | (.ok artifacts, workspace) => (.stale artifacts, workspace)
    | (.error failures, workspace) => (.failures failures, workspace)

/-- Makes calls in order, each in the workspace that the one before it left. -/
def performAll (directory : String) : List Call → Workspace → List Answer × Workspace
  | [], workspace => ([], workspace)
  | call :: calls, workspace =>
    let (answer, workspace) := perform directory call workspace
    let (answers, workspace) := performAll directory calls workspace
    (answer :: answers, workspace)

end Session

end DispatchChain
