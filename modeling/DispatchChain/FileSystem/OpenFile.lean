import DispatchChain.FileSystem
import DispatchChain.Sink
/-!
# OpenFile — a file opened for writing, and the buffer before it

`FileSystem.create` opens a file for writing and empties it; `FileSystem.store` puts the bytes
written back into the file system.  A `BufferedFile` holds text back until its buffer is full, so a
device without room is noticed only when the buffer is passed on, at a flush at the latest.
-/
namespace DispatchChain

inductive OpenFile
  /-- A file at a location, with the bytes written so far. -/
  | regular (location : Location) (bytes : ByteArray)
  | fullDevice

/-- Writes bytes at the end.  The full device fails, unless there is nothing to write. -/
def OpenFile.append (bytes : ByteArray) : OpenFile → Except FileError Unit × OpenFile
  | regular location written => (.ok (), regular location (written ++ bytes))
  | fullDevice => (if bytes.isEmpty then .ok () else .error .deviceFull, fullDevice)

namespace FileSystem

/-- Opens the file that a path leads to, empty: an existing file loses its bytes, and a missing one
is created. -/
def create (fs : FileSystem) (path : String) : Except FileError (OpenFile × FileSystem) :=
  match fs.locate? .create path with
  | .error error => .error error
  | .ok (.file location _) => .ok (.regular location .empty, fs.put location (.file .empty))
  | .ok (.vacant parent name) =>
    .ok (.regular (parent ++ [name]) .empty, fs.put (parent ++ [name]) (.file .empty))
  | .ok (.fullDevice _) => .ok (.fullDevice, fs)
  | .ok (.directory _) => .error .isDirectory
  | .ok (.link _ _) => .error .tooManyLinks

def store (fs : FileSystem) : OpenFile → FileSystem
  | .regular location bytes => fs.put location (.file bytes)
  | .fullDevice => fs

def read (fs : FileSystem) (path : String) : Except FileError ByteArray :=
  match fs.locate? .openExisting path with
  | .error error => .error error
  | .ok (.file _ bytes) => .ok bytes
  | .ok (.vacant _ _) => .error .notFound
  | .ok (.directory _) => .error .isDirectory
  | .ok (.fullDevice _) => .error .outOfMemory
  | .ok (.link _ _) => .error .tooManyLinks

/-- Removes the file, link or device that stands at a path; a link is not followed. -/
def unlink (fs : FileSystem) (path : String) : Except FileError FileSystem :=
  match fs.locate? .inspect path with
  | .error error => .error error
  | .ok (.file location _) | .ok (.link location _) | .ok (.fullDevice location) =>
    .ok (fs.erase location)
  | .ok (.vacant _ _) => .error .notFound
  | .ok (.directory _) => .error .isDirectory

end FileSystem

structure BufferedFile where
  held : ByteArray
  file : OpenFile

namespace BufferedFile

/-- The most that a buffer holds, in bytes. -/
def capacity : Nat := 8192

def ofFile (file : OpenFile) : BufferedFile := ⟨.empty, file⟩

def passOn (buffered : BufferedFile) : Except FileError Unit × BufferedFile :=
  match buffered.file.append buffered.held with
  | (.ok (), file) => (.ok (), ⟨.empty, file⟩)
  | (.error error, file) => (.error error, ⟨buffered.held, file⟩)

/-- Holds bytes back, or passes them on at once if they alone would fill the buffer. -/
def accept (bytes : ByteArray) (buffered : BufferedFile) : Except FileError Unit × BufferedFile :=
  if bytes.size < capacity then (.ok (), { buffered with held := buffered.held ++ bytes })
  else
    let (result, file) := buffered.file.append bytes
    (result, { buffered with file })

/-- Writes bytes.  If they do not fit beside what is held back, that is passed on first. -/
def write (bytes : ByteArray) (buffered : BufferedFile) : Except FileError Unit × BufferedFile :=
  if buffered.held.size + bytes.size ≤ capacity then accept bytes buffered
  else match passOn buffered with
    | (.ok (), buffered) => accept bytes buffered
    | failed => failed

instance : Sink BufferedFile FileError where
  write piece := write piece.toByteArray
  flush := passOn

end BufferedFile

end DispatchChain
