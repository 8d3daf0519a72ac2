import DispatchChain.Log
/-!
# Arguments — reading a command line

Two options take a value: `-l`, `--log-level` and `-o`, `--output-dir`.  The value stands in the same
argument, after an equals sign or, for the short forms, directly, or it is the next argument, unless
that looks like an option.  `--check` and `--list` are flags.  `--help` and `--version` are answered
as soon as they are read; everything else is judged when all arguments have been read.
-/
namespace DispatchChain

namespace CommandLine

/-- What a run is asked to do. -/
structure Options where
  level : Level
  directory : String
  /-- Whether the artifacts are checked and not generated. -/
  check : Bool
  list : Bool
deriving DecidableEq, Repr

inductive Invocation
  | run (options : Options)
  | version
  | help
  | refused
deriving DecidableEq, Repr

inductive Valued
  | level
  | directory
deriving DecidableEq, Repr

inductive Flag
  | check
  | list
deriving DecidableEq, Repr

/-- What one argument means where no value is awaited. -/
inductive Meaning
  /-- The option, with its value if the argument holds one. -/
  | valued (option : Valued) (value : Option String)
  | flag (flag : Flag)
  | version
  | help
  | unknown
deriving DecidableEq, Repr

/-- The text after a name: nothing, or the value that follows the equals signs. -/
def valueAfter : List Char → Option String
  | [] => none
  | rest => some (String.ofList (rest.dropWhile (· == '=')))

/-- The meaning of a name and its value in the long form.  Flags ignore a value. -/
def ofLong (name : String) (value : Option String) : Meaning :=
  match name with
  | "log-level" => .valued .level value
  | "output-dir" => .valued .directory value
  | "check" => .flag .check
  | "list" => .flag .list
  | "version" => .version
  | "help" => .help
  | _ => .unknown

/-- The meaning of an argument that starts with a hyphen. -/
def meaning (argument : List Char) : Meaning :=
  match argument with
  | '-' :: '-' :: rest =>
    let body := rest.dropWhile (· == '-')
    ofLong (String.ofList (body.takeWhile (· != '='))) (valueAfter (body.dropWhile (· != '=')))
  | '-' :: 'l' :: rest => .valued .level (valueAfter rest)
  | '-' :: 'o' :: rest => .valued .directory (valueAfter rest)
  | '-' :: 'V' :: _ => .version
  | '-' :: 'h' :: _ => .help
  | _ => .unknown

/-- Whether an argument is an option rather than a value: a hyphen alone is a value. -/
def looksLikeOption : List Char → Bool
  | '-' :: _ :: _ => true
  | _ => false

/-- The options and flags read so far: each use, and the values that were given. -/
structure Uses where
  valued : List Valued
  flags : List Flag
  values : List (Valued × String)
deriving DecidableEq, Repr

def Uses.none : Uses := ⟨[], [], []⟩

/-- The value given to an option, or the one it has by default. -/
def Uses.value (uses : Uses) (option : Valued) (byDefault : String) : String :=
  (uses.values.lookup option).getD byDefault

/-- Judges all that was read.  Nothing may be repeated, checking and listing exclude each other, and
the level must be one. -/
def Uses.judge (uses : Uses) : Invocation :=
  if ¬ (uses.valued.Nodup ∧ uses.flags.Nodup) then .refused
  else if .check ∈ uses.flags ∧ .list ∈ uses.flags then .refused
  else match Level.ofName? (uses.value .level "Warn") with
    | .none => .refused
    | .some level =>
      .run ⟨level, uses.value .directory "src/", .check ∈ uses.flags, .list ∈ uses.flags⟩

/-- Reads the arguments in order.  `awaited` is an option whose value may come next; an option that
goes without keeps its default.  After a bare `--` nothing may follow. -/
def readFrom (awaited : Option Valued) (uses : Uses) : List String → Invocation
  | [] => uses.judge
  | "--" :: rest => if rest = [] then uses.judge else .refused
  | argument :: rest =>
    if looksLikeOption argument.toList then
      match meaning argument.toList with
      | .valued option value =>
        let uses := { uses with valued := option :: uses.valued }
        match value with
        | some value => readFrom none { uses with values := (option, value) :: uses.values } rest
        | none => readFrom (some option) uses rest
      | .flag flag => readFrom none { uses with flags := flag :: uses.flags } rest
      | .version => .version
      | .help => .help
      | .unknown => .refused
    else match awaited with
      | some option => readFrom none { uses with values := (option, argument) :: uses.values } rest
      | none => .refused

def read (arguments : List String) : Invocation := readFrom none .none arguments

example : read ["-o=out", "--log-level", "INFO", "--check"] = .run ⟨.info, "out", true, false⟩ := by
  decide +kernel

example : read ["--check", "--list"] = .refused ∧ read ["-o", "a", "-ob"] = .refused ∧
    read ["x"] = .refused := by
  decide +kernel

end CommandLine

end DispatchChain
