import DispatchChain.DeclarationError
import DispatchChain.FileSystem.Error
/-!
# Failure — why an artifact is not generated or checked
-/
namespace DispatchChain

inductive Failure
  /-- A declaration is refused, before any file is touched. -/
  | declaration (error : DeclarationError)
  /-- The file at a path cannot be created, written or read. -/
  | file (path : String) (error : FileError)
deriving DecidableEq, Repr

namespace Failure

def cause : Failure → String
  | declaration error => error.message
  | file _ error => error.message

def message : Failure → String
  | declaration error => "configuration error: " ++ error.message
  | file path error => path ++ ": " ++ error.message

end Failure

structure ArtifactFailure where
  artifact : String
  failure : Failure
deriving DecidableEq, Repr

end DispatchChain
