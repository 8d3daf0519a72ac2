/-!
# Path — the steps that a path's text describes

A path is text: names between slashes, from the root if it starts with one.  Empty names count for
nothing, `.` stays where it is, and `..` goes to the directory above.  A slash after the last name
asks for a directory there.
-/
namespace DispatchChain

namespace Path

inductive Step
  | stay
  | up
  | down (name : String)
  /-- Asks for a directory, at the end of a path that ends in a slash. -/
  | slash
deriving DecidableEq, Repr

/-- The names between the slashes of a path, empty ones included. -/
def pieces (path : String) : List String := (path.toList.splitOn '/').map String.ofList

def fromRoot (path : String) : Bool := path.toList.head? == some '/'

def endsInSlash (path : String) : Bool := path.toList.getLast? == some '/'

/-- A path without the slashes that it ends in, unless it has no other character. -/
def withoutLastSlashes (path : String) : String :=
  let kept := (path.toList.reverse.dropWhile (· == '/')).reverse
  if kept = [] then path else String.ofList kept

/-- The step that a piece of a path describes, if it is not empty. -/
def step? : String → Option Step
  | "" => none
  | "." => some .stay
  | ".." => some .up
  | name => some (.down name)

/-- The steps of a path, from the root or from where it starts. -/
def steps (path : String) : List Step :=
  (pieces path).filterMap step? ++ if endsInSlash path then [.slash] else []

/-- A path as it is seen from a directory: a slash stands between them, unless the directory is empty
text or ends in one.  A path from the root is the same wherever it is seen from. -/
def join (directory path : String) : String :=
  if fromRoot path then path
  else if directory = "" || endsInSlash directory then directory ++ path
  else directory ++ "/" ++ path

example : steps "/dev//full" = [.down "dev", .down "full"] ∧
    steps "../a/./b/" = [.up, .down "a", .stay, .down "b", .slash] := by
  decide +kernel

end Path

end DispatchChain
