import DispatchChain.FileSystem.Error
import DispatchChain.FileSystem.Path
import Std.Data.ExtTreeMap
/-!
# FileSystem — directories, files, links and a device that is always full

A file system maps locations, the names from the root down, to entries; the root is a directory
without an entry of its own.  `FileSystem.locate?` follows a path to the place it leads to, through
links, and fails for the reasons an operating system gives.
-/
namespace DispatchChain

/-- The names from the root down to an entry. -/
abbrev Location := List String

inductive Entry
  | directory
  | file (bytes : ByteArray)
  /-- A symbolic link with its contents, a path. -/
  | link (target : String)
  /-- A device that can be opened but takes nothing. -/
  | fullDevice

/-- The entries below the root, and the working directory, where relative paths start. -/
structure FileSystem where
  entries : Std.ExtTreeMap Location Entry
  here : Location

inductive Place
  | directory (location : Location)
  | file (location : Location) (bytes : ByteArray)
  | link (location : Location) (target : String)
  | fullDevice (location : Location)
  /-- No entry of the name in an existing directory. -/
  | vacant (parent : Location) (name : String)

/-- What a path is followed for. -/
inductive Purpose
  /-- To look at the last entry itself, be it a link. -/
  | inspect
  /-- To open what is there, through a link at the end too. -/
  | openExisting
  /-- To open a file and create it if need be: a path that ends in a slash is refused. -/
  | create
deriving DecidableEq, Repr

namespace FileSystem

def lookup (fs : FileSystem) (location : Location) : Option Entry :=
  if location = [] then some .directory else fs.entries[location]?

def put (fs : FileSystem) (location : Location) (entry : Entry) : FileSystem :=
  { fs with entries := fs.entries.insert location entry }

def erase (fs : FileSystem) (location : Location) : FileSystem :=
  { fs with entries := fs.entries.erase location }

/-- **Putting an entry changes its location and no other.** -/
theorem lookup_put (fs : FileSystem) {location : Location} (entry : Entry) (other : Location)
    (below : location ≠ []) :
    (fs.put location entry).lookup other = if other = location then some entry else fs.lookup other := by
  by_cases same : other = location
  · subst same; simp [lookup, put, below]
  · have apart : ¬ compare location other = .eq := fun eq => same (Std.LawfulEqOrd.eq_of_compare eq).symm
    simp [lookup, put, same, apart, Std.ExtTreeMap.getElem?_insert]

/-- **Erasing an entry changes its location and no other.** -/
theorem lookup_erase (fs : FileSystem) {location : Location} (other : Location) (below : location ≠ []) :
    (fs.erase location).lookup other = if other = location then none else fs.lookup other := by
  by_cases same : other = location
  · subst same; simp [lookup, erase, below]
  · have apart : ¬ compare location other = .eq := fun eq => same (Std.LawfulEqOrd.eq_of_compare eq).symm
    simp [lookup, erase, same, apart, Std.ExtTreeMap.getElem?_erase]

/-- The longest name of an entry, in bytes. -/
def maxName : Nat := 255

/-- The longest path, in bytes. -/
def maxPath : Nat := 4095

/-- The most links that a path may lead through. -/
def maxLinks : Nat := 40

/-- Takes the steps from a directory.  A link on the way hands over to `follow`, with the link's
contents and the steps that remain. -/
def walkWith (fs : FileSystem) (purpose : Purpose)
    (follow : Location → String → List Path.Step → Except FileError Place) :
    Location → List Path.Step → Except FileError Place
  | location, [] => .ok (.directory location)
  | location, .stay :: steps | location, .slash :: steps => walkWith fs purpose follow location steps
  | location, .up :: steps => walkWith fs purpose follow location.dropLast steps
  | location, .down name :: steps =>
    if purpose = .create ∧ steps = [.slash] then .error .isDirectory
    else if maxName < name.utf8ByteSize then .error .nameTooLong
    else match fs.lookup (location ++ [name]) with
      | none =>
        if steps = [] ∨ steps = [.slash] then .ok (.vacant location name) else .error .notFound
      | some .directory => walkWith fs purpose follow (location ++ [name]) steps
      | some (.file bytes) =>
        if steps = [] then .ok (.file (location ++ [name]) bytes) else .error .notDirectory
      | some .fullDevice =>
        if steps = [] then .ok (.fullDevice (location ++ [name])) else .error .notDirectory
      | some (.link target) =>
        if steps = [] ∧ purpose = .inspect then .ok (.link (location ++ [name]) target)
        else follow location target steps

/-- Takes the steps from a directory, through at most so many links.  A link's contents are a path
from the directory of the link, or from the root. -/
def walk (fs : FileSystem) (purpose : Purpose) :
    (links : Nat) → Location → List Path.Step → Except FileError Place
  | 0 => walkWith fs purpose fun _ _ _ => .error .tooManyLinks
  | links + 1 => walkWith fs purpose fun location target steps =>
    if target = "" then .error .notFound
    else walk fs purpose links (if Path.fromRoot target then [] else location)
      (Path.steps target ++ steps)

def locate? (fs : FileSystem) (purpose : Purpose) (path : String) : Except FileError Place :=
  if '\x00' ∈ path.toList then .error .nulInPath
  else if path = "" then .error .notFound
  else if maxPath < path.utf8ByteSize then .error .nameTooLong
  else walk fs purpose maxLinks (if Path.fromRoot path then [] else fs.here) (Path.steps path)

end FileSystem

end DispatchChain
