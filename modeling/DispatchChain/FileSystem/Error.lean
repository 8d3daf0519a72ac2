/-!
# FileError — why an operation on a file fails
-/
namespace DispatchChain

/-- The causes for which opening, reading, writing or removing a file fails. -/
inductive FileError
  | notFound
  | notDirectory
  | isDirectory
  | nameTooLong
  /-- The path contains the character that ends paths. -/
  | nulInPath
  | tooManyLinks
  | deviceFull
  /-- The file has no end. -/
  | outOfMemory
  /-- A writer takes nothing more. -/
  | nothingTaken
  | other (message : String)
deriving DecidableEq, Repr

def FileError.message : FileError → String
  | notFound => "No such file or directory (os error 2)"
  | notDirectory => "Not a directory (os error 20)"
  | isDirectory => "Is a directory (os error 21)"
  | nameTooLong => "File name too long (os error 36)"
  | nulInPath => "file name contained an unexpected NUL byte"
  | tooManyLinks => "Too many levels of symbolic links (os error 40)"
  | deviceFull => "No space left on device (os error 28)"
  | outOfMemory => "out of memory"
  | nothingTaken => "failed to write whole buffer"
  | other message => message

end DispatchChain
