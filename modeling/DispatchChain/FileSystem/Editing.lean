import DispatchChain.FileSystem.OpenFile
/-!
# Editing — laying out a file system by hand

The operations with which directories, files and links are set up and looked over.  One that cannot
be done answers nothing, except that directories already made on the way stay.
-/
namespace DispatchChain

namespace FileSystem

/-- A file system with the full device at `/dev/full` and an empty working directory. -/
def scratch : FileSystem :=
  let here := ["scratch"]
  let bare : FileSystem := ⟨∅, here⟩
  ((bare.put ["dev"] .directory).put ["dev", "full"] .fullDevice).put here .directory

def isDirectory (fs : FileSystem) (path : String) : Bool :=
  match fs.locate? .openExisting path with
  | .ok (.directory _) => true
  | _ => false

/-- Makes a directory where there is nothing.  A link is something, whether or not a slash follows. -/
def makeDirectory (fs : FileSystem) (path : String) : Except FileError FileSystem :=
  match fs.locate? .inspect (Path.withoutLastSlashes path) with
  | .error error => .error error
  | .ok (.vacant parent name) => .ok (fs.put (parent ++ [name]) .directory)
  | .ok _ => .error (.other "File exists (os error 17)")

/-- Makes a directory unless there is one.  Tells whether there is one now. -/
def ensureDirectory (path : String) (fs : FileSystem) : Bool × FileSystem :=
  match fs.makeDirectory path with
  | .ok fs => (true, fs)
  | .error _ => (fs.isDirectory path, fs)

/-- Makes a directory unless there is one, and before it those of `parents`, nearest first, that are
missing.  Directories that were made stay even if a later one cannot be. -/
def makeDirectoryBelow (fs : FileSystem) (path : String) : (parents : List String) → Bool × FileSystem
  | [] => ensureDirectory path fs
  | parent :: parents =>
    match fs.makeDirectory path with
    | .error .notFound =>
      match makeDirectoryBelow fs parent parents with
      | (true, fs) => ensureDirectory path fs
      | (false, fs) => (false, fs)
    | _ => ensureDirectory path fs

/-- The paths of the directories above a path, nearest first. -/
def parentPaths (path : String) : List String :=
  let names := (Path.pieces path).filter fun name => name ≠ "" ∧ name ≠ "."
  let root := if Path.fromRoot path then "/" else ""
  (List.range' 1 (names.length - 1)).reverse.map fun count => root ++ "/".intercalate (names.take count)

/-- Makes the directory of a path and those above it; directories that exist are left as they are,
and an empty path asks for none.  Tells whether the directory is there now. -/
def makeDirectories (fs : FileSystem) (path : String) : Bool × FileSystem :=
  if path = "" then (true, fs) else fs.makeDirectoryBelow path (parentPaths path)

def writeFile (fs : FileSystem) (path : String) (bytes : ByteArray) : Option FileSystem :=
  match fs.create path with
  | .error _ => none
  | .ok (file, fs) =>
    match file.append bytes with
    | (.ok (), file) => some (fs.store file)
    | (.error _, _) => none

def appendFile (fs : FileSystem) (path : String) (bytes : ByteArray) : Option FileSystem :=
  match fs.locate? .openExisting path with
  | .ok (.file location old) => some (fs.put location (.file (old ++ bytes)))
  | .ok (.fullDevice _) => if bytes.isEmpty then some fs else none
  | _ => none

/-- Makes a link with the given contents where there is nothing. -/
def makeLink (fs : FileSystem) (target path : String) : Option FileSystem :=
  if target = "" ∨ maxPath < target.utf8ByteSize ∨ '\x00' ∈ target.toList ∨ Path.endsInSlash path then none
  else match fs.locate? .inspect path with
    | .ok (.vacant parent name) => some (fs.put (parent ++ [name]) (.link target))
    | _ => none

/-- Removes a directory with all that is below it. -/
def eraseTree (fs : FileSystem) (location : Location) : FileSystem :=
  { fs with entries := fs.entries.filter fun below _ => !location.isPrefixOf below }

def remove (fs : FileSystem) (path : String) : Option FileSystem :=
  match fs.locate? .inspect path with
  | .ok (.directory location) => some (fs.eraseTree location)
  | .ok (.file location _) | .ok (.link location _) | .ok (.fullDevice location) =>
    some (fs.erase location)
  | .ok (.vacant _ _) | .error _ => none

/-- The text of the file that a path leads to, if it is text. -/
def readText (fs : FileSystem) (path : String) : Option String :=
  match fs.read path with
  | .ok bytes => String.fromUTF8? bytes
  | .error _ => none

/-- Everything below the working directory, by its path from there: the entries of a directory by
name, each directly before what is below it. -/
def tree (fs : FileSystem) : List (String × Entry) :=
  fs.entries.toList.filterMap fun (location, entry) =>
    if fs.here.isPrefixOf location ∧ fs.here ≠ location then
      some ("/".intercalate (location.drop fs.here.length), entry)
    else none

end FileSystem

end DispatchChain
