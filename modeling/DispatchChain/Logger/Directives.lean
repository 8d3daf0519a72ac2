import DispatchChain.Logger
/-!
# Directives — filters that tell modules apart

A filter is a list of directives, separated by commas.  A directive is the name of a level, for the records of every
module, or the path of a module, for all of its records, or a path and a level with an equals sign between them.  Of the
directives whose path starts the path of a record's module, the one with the longest path decides.  Without directives a
filter keeps errors.  What follows a slash would be a pattern for messages, and is not read.
-/
namespace DispatchChain

/-- The path of the module that notes a record.  The program itself notes what it was asked for and what came of it, the
rest is noted where artifacts are written. -/
def Record.origin (record : Record) : String :=
  let writes : Bool := match record.level with
    | .error => false
    | .warn | .trace => true
    | .info => "Wrote ".toList.isPrefixOf record.message.toList
    | .debug => "Generating ".toList.isPrefixOf record.message.toList
  if writes then "dispatchgen::driver" else "dispatchgen"

structure Directive where
  /-- The start of the paths of the modules that are meant. -/
  path : List Char
  finest : Option Level
deriving DecidableEq, Repr

namespace Directive

def withoutBlanks (cs : List Char) : List Char :=
  ((cs.dropWhile Char.isWhitespace).reverse.dropWhile Char.isWhitespace).reverse

def read? (cs : List Char) : Option Directive :=
  match cs.splitOn '=' with
  | [path] =>
    match Level.finestOfName? (String.ofList path) with
    | some finest => some ⟨[], finest⟩
    | none => some ⟨path, some .trace⟩
  | [path, name] =>
    if name = [] then some ⟨path, some .trace⟩
    else (Level.finestOfName? (String.ofList (withoutBlanks name))).map (⟨path, ·⟩)
  | _ => none

/-- Reads the directives that make sense, and passes over the others. -/
def readList (cs : List Char) : List Directive :=
  ((cs.splitOn ',').map withoutBlanks).filterMap fun cs => if cs = [] then none else read? cs

def ofText (text : String) : List Directive :=
  let directives := match text.toList.splitOn '/' with
    | [cs] | [cs, _] => readList cs
    | _ => []
  if directives = [] then [⟨[], some .error⟩] else directives

def Applies (directive : Directive) (origin : String) : Prop := directive.path <+: origin.toList

instance (directive : Directive) (origin : String) : Decidable (directive.Applies origin) :=
  inferInstanceAs (Decidable (_ <+: _))

/-- Of the directives that apply to a module, the last of those with the longest path. -/
def decisive? (origin : String) : List Directive → Option Directive
  | [] => none
  | directive :: directives =>
    match decisive? origin directives with
    | none => if directive.Applies origin then some directive else none
    | some other =>
      if directive.Applies origin ∧ other.path.length < directive.path.length then some directive else some other

def finestOf : List Directive → Option Level
  | [] => none
  | directive :: directives =>
    if Log.depth (finestOf directives) ≤ Log.depth directive.finest then directive.finest else finestOf directives

def keeps (text : String) (record : Record) : Bool :=
  match decisive? record.origin (ofText text) with
  | none => false
  | some directive => (Log.empty directive.finest).admits record.level

variable {text : String} {finest : Option Level}

theorem mem_of_decisive? {origin : String} {directive : Directive} : ∀ {directives : List Directive},
    decisive? origin directives = some directive → directive ∈ directives
  | first :: directives, decides => by
    unfold decisive? at decides
    cases later : decisive? origin directives with
    | none =>
      simp only [later] at decides
      split at decides <;> simp_all
    | some other =>
      have mem := mem_of_decisive? later
      simp only [later] at decides
      split at decides <;> simp_all

theorem depth_le_finestOf {directive : Directive} : ∀ {directives : List Directive}, directive ∈ directives →
    Log.depth directive.finest ≤ Log.depth (finestOf directives)
  | first :: directives, mem => by
    unfold finestOf
    rcases List.mem_cons.1 mem with rfl | mem
    · split <;> omega
    · have later := depth_le_finestOf mem
      split <;> omega

theorem admits_of_keeps {record : Record} (kept : keeps text record = true) :
    (Log.empty (finestOf (ofText text))).admits record.level = true := by
  unfold keeps at kept
  split at kept
  · cases kept
  · rename_i directive decides
    have finer := depth_le_finestOf (mem_of_decisive? decides)
    rw [Log.admits_empty_iff] at kept ⊢
    omega

theorem inCapitals_mem (named : Level.finestOfName? text = some finest) :
    Level.inCapitals text ∈ ["OFF", "ERROR", "WARN", "INFO", "DEBUG", "TRACE"] := by
  unfold Level.finestOfName? at named
  split at named
  · simp [*]
  · obtain ⟨level, named, -⟩ := Option.map_eq_some_iff.1 named
    unfold Level.ofName? Level.ofLabel? at named
    split at named <;> simp_all

theorem isUpper_of_finestOfName? (named : Level.finestOfName? text = some finest) :
    text.toList ≠ [] ∧ ∀ c ∈ text.toList, c.toUpper.isUpper := by
  have letters : ∀ label ∈ ["OFF", "ERROR", "WARN", "INFO", "DEBUG", "TRACE"],
      label.toList ≠ [] ∧ ∀ c ∈ label.toList, c.isUpper := by simp
  obtain ⟨some_letter, upper⟩ := letters _ (inCapitals_mem named)
  rw [Level.inCapitals, String.toList_ofList] at some_letter upper
  exact ⟨fun empty => some_letter (by simp [empty]), fun c mem => upper _ (List.mem_map_of_mem mem)⟩

theorem withoutBlanks_of_forall {cs : List Char} (inked : ∀ c ∈ cs, c.isWhitespace = false) :
    withoutBlanks cs = cs := by
  have kept : ∀ {ds : List Char}, (∀ c ∈ ds, c.isWhitespace = false) → ds.dropWhile Char.isWhitespace = ds
    | [], _ => rfl
    | d :: ds, inked => List.dropWhile_cons_of_neg (by simp [inked d List.mem_cons_self])
  rw [withoutBlanks, kept inked, kept fun c mem => inked c (List.mem_reverse.1 mem), List.reverse_reverse]

theorem ofText_of_finestOfName? (named : Level.finestOfName? text = some finest) :
    ofText text = [⟨[], finest⟩] := by
  obtain ⟨some_letter, upper⟩ := isUpper_of_finestOfName? named
  have apart : ∀ c : Char, c.toUpper.isUpper = false → c ∉ text.toList := by
    intro c small mem
    rw [upper c mem] at small
    cases small
  have inked : ∀ c ∈ text.toList, c.isWhitespace = false := by
    intro c mem
    cases blank : c.isWhitespace with
    | false => rfl
    | true =>
      simp only [Char.isWhitespace, Bool.or_eq_true, decide_eq_true_eq] at blank
      rcases blank with ((rfl | rfl) | rfl) | rfl <;> exact absurd mem (apart _ (by decide))
  have alone : read? text.toList = some ⟨[], finest⟩ := by
    rw [read?, List.splitOn_eq_singleton (apart '=' (by decide))]
    simp only [String.ofList_toList, named]
  rw [ofText, List.splitOn_eq_singleton (apart '/' (by decide))]
  simp only [readList, List.splitOn_eq_singleton (apart ',' (by decide)), List.map_cons, List.map_nil,
    withoutBlanks_of_forall inked, List.filterMap_cons, List.filterMap_nil, if_neg some_letter, alone]
  rfl

theorem keeps_of_finestOfName? (named : Level.finestOfName? text = some finest) (record : Record) :
    keeps text record = (Log.empty finest).admits record.level := by
  have applies : Applies ⟨[], finest⟩ record.origin := List.nil_prefix
  rw [keeps, ofText_of_finestOfName? named, decisive?, decisive?]
  simp only [if_pos applies]

example : ∀ text ∈ ["error", "dispatchgen=error", "dispatchgen", "error,", "off,dispatchgen=info"],
    keeps text ⟨.error, "Failed"⟩ = true ∧ keeps text ⟨.trace, "SWI_INSTR.gencpp: []"⟩ = (text == "dispatchgen") := by
  decide +kernel

end Directive

/-- The logger that reads directives. -/
def Logger.directives : Logger where
  finest text := Directive.finestOf (Directive.ofText text)
  keeps := Directive.keeps
  admits_of_keeps := Directive.admits_of_keeps
  keeps_of_name := Directive.keeps_of_finestOfName?

end DispatchChain
