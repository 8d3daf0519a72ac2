import DispatchChain.Catalogue.ArmThumb
import DispatchChain.CommandLine.Arguments
import DispatchChain.Logger.Directives
import DispatchChain.Text.Quoted
/-!
# CommandLine — a run of the program

A run lists the families of the built-in catalogue, checks their artifacts or generates them, and
says by its exit status whether all is well.  Of what it notes, a logger keeps what the filter of the
environment lets through, or else what the level asked for does.
-/
namespace DispatchChain

namespace CommandLine

/-- What a run leaves behind beside its files. -/
structure Outcome where
  exit : Nat
  output : String
  records : Array Record
deriving DecidableEq, Repr

def listing (family : Family) : String :=
  Text.padRight 36 family.artifact ++ " " ++ Text.padLeft 4 family.count.repr ++ " clauses  " ++
    family.text ++ "\n"

def Options.text (options : Options) : String :=
  "CommandLine \x7b log_level: " ++ options.level.name ++ ", output_dir: " ++ Text.quote options.directory ++
    ", check: " ++ toString options.check ++ ", list: " ++ toString options.list ++ " \x7d"

def noteFailures (failures : List ArtifactFailure) (workspace : Workspace) : Workspace :=
  failures.foldl (fun workspace failed => workspace.note .error
    s!"Failed to process {failed.artifact}: {failed.failure.message}") workspace

def noteStale (directory : String) (stale : List String) (workspace : Workspace) : Workspace :=
  stale.foldl (fun workspace artifact => workspace.note .error
    s!"{Path.join directory artifact} is missing or out of date") workspace

/-- Checks the artifacts; tells whether all are up to date. -/
def runCheck (directory : String) (families : List Family) (workspace : Workspace) : Bool × Workspace :=
  match Catalogue.check directory families workspace with
  | (.ok stale, workspace) => (stale.isEmpty, noteStale directory stale workspace)
  | (.error failures, workspace) => (false, noteFailures failures workspace)

/-- Generates the artifacts; tells whether all were. -/
def runGenerate (directory : String) (families : List Family) (workspace : Workspace) : Bool × Workspace :=
  match Catalogue.generate directory families workspace with
  | (.ok clauses, workspace) =>
    (true, workspace.note .info
      s!"Generated {clauses} clauses across {families.length} fragments in {directory}")
  | (.error failures, workspace) => (false, noteFailures failures workspace)

/-- Does what the options ask for with a catalogue, unless it was refused.  Answers whether all is well
and the text to print. -/
def runOptions (catalogue : Except DeclarationError (List Family)) (options : Options) (workspace : Workspace) :
    (Bool × String) × Workspace :=
  let workspace := workspace.note .info "Launching dispatchgen from command line now."
  let workspace := workspace.note .debug s!"Arguments: {options.text}"
  match catalogue with
  | .error error =>
    ((false, ""), workspace.note .error s!"Invalid instruction family catalogue: {error.message}")
  | .ok families =>
    if options.list then ((true, String.join (families.map listing)), workspace)
    else
      let action := if options.check then runCheck else runGenerate
      let (well, workspace) := action options.directory families workspace
      ((well, ""), workspace)

def versionText : String := "dispatchgen 0.1.0\n"

def runWith (logger : Logger) (catalogue : Except DeclarationError (List Family)) (arguments : List String)
    (filter : Option String) (files : FileSystem) : Outcome × FileSystem :=
  match read arguments with
  | .version => (⟨0, versionText, #[]⟩, files)
  | .help => (⟨0, "", #[]⟩, files)
  | .refused => (⟨1, "", #[]⟩, files)
  | .run options =>
    let text := filter.getD options.level.name
    let ((well, output), workspace) := runOptions catalogue options ⟨files, .empty (logger.finest text)⟩
    (⟨if well then 0 else 1, output, workspace.log.records.filter (logger.keeps text)⟩, workspace.files)

/-- Runs the program on its arguments and the filter of the environment, if it is set, with a logger to read it. -/
def runUnder (logger : Logger) (arguments : List String) (filter : Option String) (files : FileSystem) :
    Outcome × FileSystem :=
  runWith logger Catalogue.armThumb arguments filter files

def run (arguments : List String) (filter : Option String) (files : FileSystem) : Outcome × FileSystem :=
  runUnder .directives arguments filter files

end CommandLine

end DispatchChain
