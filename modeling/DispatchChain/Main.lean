import DispatchChain.CommandLine
import DispatchChain.FileSystem.Editing
/-!
# Main — the program

A run is decided on a survey of the disk: a file system that holds what stands on the paths of the
artifacts and of the directories above them.  What the run changed there is then carried out on the
disk, and what it logged is printed to the error stream.
-/
namespace DispatchChain

namespace Program

/-- What is printed for arguments that ask for help or make no sense. -/
def usage : String :=
  "usage: dispatchgen [--check | --list] [-o | --output-dir DIR] [-l | --log-level LEVEL]\n" ++
    "Generates template dispatch fragments for the ARM and Thumb instruction handlers.\n" ++
    "DIR is src/ by default and must exist; LEVEL is error, warn, info, debug or trace.\n"

def artifactPaths (directory : String) : List String :=
  match Catalogue.armThumb with
  | .ok families => families.map (Family.artifactPath directory)
  | .error _ => []

/-- Adds to a survey what stands at a path on the disk, if anything does. -/
def observe (files : FileSystem) (path : String) : IO FileSystem := do
  let seen : Option FileSystem ← try
      let real ← IO.FS.realPath path
      if real.toString = "/dev/full" then pure (files.makeLink "/dev/full" path)
      else if ← real.isDir then pure (some (files.makeDirectories path).2)
      else pure (files.writeFile path (← IO.FS.readBinFile path))
    catch _ => pure none
  return seen.getD files

/-- The part of the disk that a run on a directory can see or change. -/
def survey (directory : String) : IO FileSystem :=
  ((FileSystem.parentPaths directory).reverse ++ directory :: artifactPaths directory).foldlM observe .scratch

/-- Carries out on the disk what a run changed at a path: a file written, or an entry removed. -/
def carryOut (before after : FileSystem) (path : String) : IO Unit := do
  match after.locate? .inspect path, before.locate? .inspect path with
  | .ok (.file _ bytes), .ok (.file _ old) => if bytes != old then IO.FS.writeBinFile path bytes
  | .ok (.file _ bytes), _ => IO.FS.writeBinFile path bytes
  | .ok (.vacant _ _), .ok (.link _ _) => IO.FS.removeFile path
  | _, _ => pure ()

def runIn (directory : String) (arguments : List String) (filter : Option String) : IO UInt32 := do
  let before ← survey directory
  let (outcome, after) := CommandLine.run arguments filter before
  (artifactPaths directory).forM (carryOut before after)
  IO.print outcome.output
  outcome.records.forM fun record => IO.eprintln s!"[{record.level.label}] {record.message}"
  return outcome.exit.toUInt32

end Program

end DispatchChain

open DispatchChain in
/-- The program: its arguments are those of `CommandLine.read`, and `RUST_LOG` filters its log. -/
def main (arguments : List String) : IO UInt32 := do
  let filter ← IO.getEnv "RUST_LOG"
  match CommandLine.read arguments with
  | .help =>
    IO.print Program.usage
    return 0
  | .version =>
    IO.print CommandLine.versionText
    return 0
  | .refused =>
    IO.eprint Program.usage
    return 1
  | .run options => Program.runIn options.directory arguments filter
