import DispatchChain.Declaration
import DispatchChain.Workspace
/-!
# Catalogue — families that are processed together

The families of a catalogue write to different artifacts; a catalogue in which two share one is
refused before anything is touched.  Otherwise every family is processed in order, each in the
workspace that the one before it left, and no failure stops the others.  If any family failed, the
failures are the answer.
-/
namespace DispatchChain

namespace Catalogue

/-- Refuses a catalogue in which two families share an artifact, naming the first that is declared
again. -/
def requireDistinct (families : List Family) : Except DeclarationError Unit :=
  match firstRepeat (families.map Family.artifact) with
  | some artifact => .error (.repeatedArtifact artifact)
  | none => .ok ()

/-- Checks the families of a catalogue in order, and then the catalogue itself. -/
def declare (declarations : List FamilyDeclaration) : Except DeclarationError (List Family) := do
  let families ← declarations.mapM FamilyDeclaration.declare
  requireDistinct families
  return families

variable {α : Type}

/-- Processes families in order, each in the workspace that the one before it left. -/
def processEach (action : Family → Workspace → Except Failure α × Workspace) :
    List Family → Workspace → List (Family × Except Failure α) × Workspace
  | [], workspace => ([], workspace)
  | family :: families, workspace =>
    let (outcome, workspace) := action family workspace
    let (outcomes, workspace) := processEach action families workspace
    ((family, outcome) :: outcomes, workspace)

/-- The failures among some outcomes, in order. -/
def failures (outcomes : List (Family × Except Failure α)) : List ArtifactFailure :=
  outcomes.filterMap fun (family, outcome) =>
    match outcome with
    | .error failure => some ⟨family.artifact, failure⟩
    | .ok _ => none

/-- The results among some outcomes, in order, each with its family. -/
def results (outcomes : List (Family × Except Failure α)) : List (Family × α) :=
  outcomes.filterMap fun (family, outcome) =>
    match outcome with
    | .error _ => none
    | .ok result => some (family, result)

/-- The results of processing a whole catalogue, or else what failed: the catalogue itself, or some
of its families. -/
def process (action : Family → Workspace → Except Failure α × Workspace)
    (families : List Family) (workspace : Workspace) :
    Except (List ArtifactFailure) (List (Family × α)) × Workspace :=
  match requireDistinct families with
  | .error error => (.error [⟨error.subject, .declaration error⟩], workspace)
  | .ok () =>
    let (outcomes, workspace) := processEach action families workspace
    (if failures outcomes = [] then .ok (results outcomes) else .error (failures outcomes), workspace)

def total : List Nat → Nat
  | [] => 0
  | count :: counts => count + total counts

/-- Generates the artifacts of a catalogue.  Answers the number of clauses in all. -/
def generate (directory : String) (families : List Family) (workspace : Workspace) :
    Except (List ArtifactFailure) Nat × Workspace :=
  let (outcome, workspace) := process (Workspace.generate directory) families workspace
  (outcome.map fun results => total (results.map Prod.snd), workspace)

/-- Checks the artifacts of a catalogue.  Answers the names of those that are out of date. -/
def check (directory : String) (families : List Family) (workspace : Workspace) :
    Except (List ArtifactFailure) (List String) × Workspace :=
  let (outcome, workspace) := process (Workspace.check directory) families workspace
  (outcome.map fun results => (results.filter fun (_, fresh) => !fresh).map fun (family, _) => family.artifact,
    workspace)

end Catalogue

end DispatchChain
