import DispatchChain.FileSystem.OpenFile
import DispatchChain.Proofs.Entering
/-!
# Absence — when nothing is found at a path

A path breaks off where a name on its way does not stand in the directory that it has come to
(`FileSystem.absent_walk_iff`).  For the path of an artifact there are three such places: on the way into the directory,
at the name, and behind a link of that name (`FileSystem.read_join_eq_notFound_iff`).
-/
namespace DispatchChain

namespace FileSystem

open DispatchChain.Path (Step)

/-- **The steps break off**: they come to a name that is not there, or to a link to nowhere. -/
inductive BreaksOff (fs : FileSystem) : (links : Nat) → Location → List Step → Prop
  | stay {links location steps} : BreaksOff fs links location steps → BreaksOff fs links location (.stay :: steps)
  | slash {links location steps} : BreaksOff fs links location steps → BreaksOff fs links location (.slash :: steps)
  | up {links location steps} : BreaksOff fs links location.dropLast steps →
      BreaksOff fs links location (.up :: steps)
  | missing {links location first steps} : ¬ maxName < first.utf8ByteSize →
      fs.lookup (location ++ [first]) = none → BreaksOff fs links location (.down first :: steps)
  | enter {links location first steps} : ¬ maxName < first.utf8ByteSize →
      fs.lookup (location ++ [first]) = some .directory → BreaksOff fs links (location ++ [first]) steps →
      BreaksOff fs links location (.down first :: steps)
  | nowhere {links location first steps} : ¬ maxName < first.utf8ByteSize →
      fs.lookup (location ++ [first]) = some (.link "") → BreaksOff fs (links + 1) location (.down first :: steps)
  | follow {links location first target steps} : ¬ maxName < first.utf8ByteSize →
      fs.lookup (location ++ [first]) = some (.link target) → target ≠ "" →
      BreaksOff fs links (if Path.fromRoot target then [] else location) (Path.steps target ++ steps) →
      BreaksOff fs (links + 1) location (.down first :: steps)

/-- A link with these contents, and the steps behind it, break off, if one more link may be followed. -/
def Dangles (fs : FileSystem) : (links : Nat) → Location → (target : String) → List Step → Prop
  | 0, _, _, _ => False
  | links + 1, location, target, steps =>
    target = "" ∨ BreaksOff fs links (if Path.fromRoot target then [] else location) (Path.steps target ++ steps)

/-- Nothing was found: a place where nothing stands, or none at all. -/
def Absent : Except FileError Place → Prop
  | .ok place => place.entry = none
  | .error error => error = .notFound

variable {fs : FileSystem} {links spare : Nat} {location inside : Location} {steps rest : List Step} {name : String}

theorem breaksOff_stay_iff : BreaksOff fs links location (.stay :: steps) ↔ BreaksOff fs links location steps :=
  ⟨fun | .stay breaks => breaks, .stay⟩

theorem breaksOff_slash_iff : BreaksOff fs links location (.slash :: steps) ↔ BreaksOff fs links location steps :=
  ⟨fun | .slash breaks => breaks, .slash⟩

theorem breaksOff_up_iff :
    BreaksOff fs links location (.up :: steps) ↔ BreaksOff fs links location.dropLast steps :=
  ⟨fun | .up breaks => breaks, .up⟩

theorem BreaksOff.of_link {target : String} (short : ¬ maxName < name.utf8ByteSize)
    (isLink : fs.lookup (location ++ [name]) = some (.link target)) (dangles : fs.Dangles links location target steps) :
    BreaksOff fs links location (.down name :: steps) := by
  cases links with
  | zero => exact dangles.elim
  | succ links =>
    by_cases empty : target = ""
    · subst empty
      exact .nowhere short isLink
    · exact .follow short isLink empty (dangles.resolve_left empty)

/-- **Whether the steps break off at a name is decided by what stands there.** -/
theorem breaksOff_down_iff : BreaksOff fs links location (.down name :: steps) ↔
    ¬ maxName < name.utf8ByteSize ∧
      match fs.lookup (location ++ [name]) with
      | none => True
      | some .directory => BreaksOff fs links (location ++ [name]) steps
      | some (.file _) | some .fullDevice => False
      | some (.link target) => fs.Dangles links location target steps := by
  constructor
  · intro breaks
    cases breaks with
    | missing short vacant =>
      rw [vacant]
      exact ⟨short, trivial⟩
    | enter short isDirectory breaks =>
      rw [isDirectory]
      exact ⟨short, breaks⟩
    | nowhere short isLink =>
      rw [isLink]
      exact ⟨short, .inl rfl⟩
    | follow short isLink _ breaks =>
      rw [isLink]
      exact ⟨short, .inr breaks⟩
  · rintro ⟨short, goesOn⟩
    cases stands : fs.lookup (location ++ [name]) with
    | none => exact .missing short stands
    | some entry =>
      rw [stands] at goesOn
      cases entry with
      | directory => exact .enter short stands goesOn
      | file bytes => exact goesOn.elim
      | fullDevice => exact goesOn.elim
      | link target => exact .of_link short stands goesOn

/-- **Nothing is found at the end of the steps exactly if they break off.** -/
theorem absent_walk_iff (fs : FileSystem) : ∀ (links : Nat) (location : Location) (steps : List Step),
    Absent (walk fs .openExisting links location steps) ↔ BreaksOff fs links location steps
  | _, _, [] => by
    rw [walk_nil]
    exact iff_of_false (by simp [Absent, Place.entry]) nofun
  | links, location, .stay :: steps => by
    rw [walk_stay, breaksOff_stay_iff]
    exact absent_walk_iff fs links location steps
  | links, location, .slash :: steps => by
    rw [walk_slash, breaksOff_slash_iff]
    exact absent_walk_iff fs links location steps
  | links, location, .up :: steps => by
    rw [walk_up, breaksOff_up_iff]
    exact absent_walk_iff fs links location.dropLast steps
  | links, location, .down first :: steps => by
    rw [walk_down, breaksOff_down_iff, if_neg (by simp)]
    by_cases long : maxName < first.utf8ByteSize
    · rw [if_pos long]
      exact iff_of_false (by simp [Absent]) fun breaks => breaks.1 long
    rw [if_neg long, and_iff_right long]
    -- A file and the device are found, or stand in the way.
    have found {there : Place} (elsewhere : there.entry ≠ none) :
        ¬ Absent (if steps = [] then .ok there else .error .notDirectory) := by
      by_cases ended : steps = []
      · rw [if_pos ended]
        exact elsewhere
      · rw [if_neg ended]
        simp [Absent]
    cases stands : fs.lookup (location ++ [first]) with
    | none =>
      refine iff_of_true ?_ trivial
      by_cases ended : steps = [] ∨ steps = [.slash]
      · simp only [if_pos ended]
        rfl
      · simp only [if_neg ended]
        rfl
    | some entry =>
      cases entry with
      | directory => exact absent_walk_iff fs links (location ++ [first]) steps
      | file bytes => exact iff_of_false (found (by simp [Place.entry])) id
      | fullDevice => exact iff_of_false (found (by simp [Place.entry])) id
      | link target =>
        simp only
        rw [if_neg (by simp)]
        cases links with
        | zero => exact iff_of_false (by simp [Absent, followLink]) id
        | succ links =>
          rw [followLink, Dangles]
          by_cases empty : target = ""
          · rw [if_pos empty]
            exact iff_of_true rfl (.inl empty)
          · rw [if_neg empty, or_iff_right empty]
            exact absent_walk_iff fs links _ _
termination_by links _ steps => (links, steps.length)

theorem BreaksOff.append (breaks : BreaksOff fs links location steps) (rest : List Step) :
    BreaksOff fs links location (steps ++ rest) := by
  induction breaks with
  | stay _ ih => exact .stay ih
  | slash _ ih => exact .slash ih
  | up _ ih => exact .up ih
  | missing short vacant => exact .missing short vacant
  | enter short isDirectory _ ih => exact .enter short isDirectory ih
  | nowhere short isLink => exact .nowhere short isLink
  | follow short isLink nonempty _ ih => exact .follow short isLink nonempty (List.append_assoc .. ▸ ih)

theorem Enters.breaksOff_append (enters : Enters fs links location steps spare inside)
    (breaks : BreaksOff fs spare inside rest) : BreaksOff fs links location (steps ++ rest) := by
  induction enters with
  | here => exact breaks
  | stay _ ih => exact .stay (ih breaks)
  | slash _ ih => exact .slash (ih breaks)
  | up _ ih => exact .up (ih breaks)
  | enter short isDirectory _ ih => exact .enter short isDirectory (ih breaks)
  | follow short isLink nonempty _ ih =>
    exact .follow short isLink nonempty (List.append_assoc .. ▸ ih breaks)

theorem breaksOff_or_enters (fs : FileSystem) {rest : List Step} :
    ∀ (links : Nat) (location : Location) (steps : List Step), BreaksOff fs links location (steps ++ rest) →
      BreaksOff fs links location steps ∨
        ∃ spare inside, Enters fs links location steps spare inside ∧ BreaksOff fs spare inside rest
  | links, location, [], breaks => .inr ⟨links, location, .here, breaks⟩
  | links, location, .stay :: steps, .stay breaks =>
    (breaksOff_or_enters fs links location steps breaks).imp .stay fun ⟨spare, inside, enters, breaks⟩ =>
      ⟨spare, inside, .stay enters, breaks⟩
  | links, location, .slash :: steps, .slash breaks =>
    (breaksOff_or_enters fs links location steps breaks).imp .slash fun ⟨spare, inside, enters, breaks⟩ =>
      ⟨spare, inside, .slash enters, breaks⟩
  | links, location, .up :: steps, .up breaks =>
    (breaksOff_or_enters fs links location.dropLast steps breaks).imp .up fun ⟨spare, inside, enters, breaks⟩ =>
      ⟨spare, inside, .up enters, breaks⟩
  | _, _, .down _ :: _, .missing short vacant => .inl (.missing short vacant)
  | _, _, .down _ :: _, .nowhere short isLink => .inl (.nowhere short isLink)
  | links, location, .down first :: steps, .enter short isDirectory breaks =>
    (breaksOff_or_enters fs links (location ++ [first]) steps breaks).imp (.enter short isDirectory)
      fun ⟨spare, inside, enters, breaks⟩ => ⟨spare, inside, .enter short isDirectory enters, breaks⟩
  | links + 1, location, .down first :: steps, .follow short isLink nonempty breaks => by
    rw [List.append_eq, ← List.append_assoc] at breaks
    exact (breaksOff_or_enters fs links _ _ breaks).imp (.follow short isLink nonempty)
      fun ⟨spare, inside, enters, breaks⟩ => ⟨spare, inside, .follow short isLink nonempty enters, breaks⟩
termination_by links _ steps => (links, steps.length)

theorem breaksOff_append_iff :
    BreaksOff fs links location (steps ++ rest) ↔ BreaksOff fs links location steps ∨
      ∃ spare inside, Enters fs links location steps spare inside ∧ BreaksOff fs spare inside rest :=
  ⟨breaksOff_or_enters fs links location steps, fun
    | .inl breaks => breaks.append rest
    | .inr ⟨_, _, enters, breaks⟩ => enters.breaksOff_append breaks⟩

/-- **Nothing is there for the name of an artifact in a directory**: the directory is missing, or the artifact, or what
the link in its place leads to. -/
inductive Missing (fs : FileSystem) (directory name : String) : Prop
  | directory : BreaksOff fs maxLinks (if Path.fromRoot directory then [] else fs.here) (Path.entering directory) →
      Missing fs directory name
  | artifact {spare : Nat} {inside : Location} : fs.Opens directory spare inside → ¬ maxName < name.utf8ByteSize →
      fs.lookup (inside ++ [name]) = none → Missing fs directory name
  | link {spare : Nat} {inside : Location} {target : String} : fs.Opens directory spare inside →
      ¬ maxName < name.utf8ByteSize → fs.lookup (inside ++ [name]) = some (.link target) →
      fs.Dangles spare inside target [] → Missing fs directory name

variable {directory : String}

theorem missing_iff : fs.Missing directory name ↔
    BreaksOff fs maxLinks (if Path.fromRoot directory then [] else fs.here)
      (Path.entering directory ++ [.down name]) := by
  rw [breaksOff_append_iff]
  constructor
  · rintro (breaks | ⟨opens, short, vacant⟩ | ⟨opens, short, isLink, dangles⟩)
    · exact .inl breaks
    · exact .inr ⟨_, _, opens, .missing short vacant⟩
    · exact .inr ⟨_, _, opens, .of_link short isLink dangles⟩
  · rintro (breaks | ⟨spare, inside, enters, breaks⟩)
    · exact .directory breaks
    obtain ⟨short, goesOn⟩ := breaksOff_down_iff.1 breaks
    cases stands : fs.lookup (inside ++ [name]) with
    | none => exact .artifact enters short stands
    | some entry =>
      rw [stands] at goesOn
      cases entry with
      | directory => cases goesOn
      | file bytes => exact goesOn.elim
      | fullDevice => exact goesOn.elim
      | link target => exact .link enters short stands goesOn

theorem read_eq_notFound_iff {path : String} :
    fs.read path = .error .notFound ↔ Absent (fs.locate? .openExisting path) := by
  rw [read]
  cases fs.locate? .openExisting path with
  | error error => simp [Absent]
  | ok place => cases place <;> simp [Absent, Place.entry]

/-- **Reading an artifact finds nothing exactly if it is missing**, unless its path is one that no file can have. -/
theorem read_join_eq_notFound_iff (isName : IsArtifactName name) :
    fs.read (Path.join directory name) = .error .notFound ↔
      '\x00' ∉ (Path.join directory name).toList ∧ ¬ maxPath < (Path.join directory name).utf8ByteSize ∧
        fs.Missing directory name := by
  rw [read_eq_notFound_iff, locate?]
  by_cases nul : '\x00' ∈ (Path.join directory name).toList
  · rw [if_pos nul]
    exact iff_of_false (by simp [Absent]) fun found => found.1 nul
  rw [if_neg nul, if_neg (Path.join_ne_empty isName directory)]
  by_cases long : maxPath < (Path.join directory name).utf8ByteSize
  · rw [if_pos long]
    exact iff_of_false (by simp [Absent]) fun found => found.2.1 long
  rw [if_neg long, absent_walk_iff, Path.fromRoot_join isName, Path.steps_join isName, missing_iff]
  exact ⟨fun breaks => ⟨nul, long, breaks⟩, fun found => found.2.2⟩

end FileSystem

end DispatchChain
