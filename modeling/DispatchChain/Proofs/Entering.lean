import DispatchChain.Family
import DispatchChain.Proofs.Arrival
import Mathlib.Data.List.Basic
/-!
# Entering — the way into a directory, and from there to a name

The path of an artifact is a path into a directory with a name behind it (`Path.steps_join`).  Either the directory
can be entered, and then the name alone decides what the path leads to (`FileSystem.locate?_join`), or no artifact's
path leads anywhere (`FileSystem.opens_of_locate?_join`).  A way into a directory goes through directories and
links, so it stays open while files come and go, and also links that lead straight to the device, for these enter
nothing (`FileSystem.Enters.frame`).
-/
namespace DispatchChain

namespace Path

/-- The steps into a directory: those of its path, but for a slash at the end. -/
def entering (directory : String) : List Step := (pieces directory).filterMap step?

theorem steps_eq (path : String) : steps path = entering path ++ if endsInSlash path then [.slash] else [] := rfl

variable {directory name : String}

theorem step?_of_isArtifactName (isName : IsArtifactName name) : step? name = some (.down name) := by
  obtain ⟨nonempty, notStay, notUp, -, -⟩ := isName
  unfold step?
  split <;> first | rfl | contradiction

theorem pieces_of_isArtifactName (isName : IsArtifactName name) : pieces name = [name] := by
  rw [pieces, List.splitOn_eq_singleton isName.2.2.2.1, List.map_singleton, String.ofList_toList]

theorem pieces_append (isName : IsArtifactName name) {path : String} {start : List Char}
    (spelled : path.toList = start ++ '/' :: name.toList) :
    pieces path = pieces (String.ofList start) ++ [name] := by
  rw [← pieces_of_isArtifactName isName, pieces, pieces, pieces, spelled, List.splitOn_append_cons_self,
    List.map_append, String.toList_ofList]

theorem endsInSlash_iff {path : String} : endsInSlash path = true ↔ ∃ start, path.toList = start ++ ['/'] := by
  rw [endsInSlash, beq_iff_eq, List.getLast?_eq_some_iff]

theorem fromRoot_of_isArtifactName (isName : IsArtifactName name) : fromRoot name = false := by
  refine eq_false_of_ne_true fun rooted => isName.2.2.2.1 ?_
  rw [fromRoot, beq_iff_eq] at rooted
  exact List.mem_of_head? rooted

/-- **The path of a name in a directory is the directory, a slash if it needs one, and the name.** -/
theorem join_of_isArtifactName (isName : IsArtifactName name) (directory : String) :
    join directory name = if directory = "" || endsInSlash directory then directory ++ name
      else directory ++ "/" ++ name := by
  rw [join, fromRoot_of_isArtifactName isName]
  exact if_neg Bool.false_ne_true

theorem toList_join (isName : IsArtifactName name) (directory : String) :
    (directory = "" ∧ (join directory name).toList = name.toList) ∨
    (∃ start, directory.toList = start ++ ['/'] ∧ (join directory name).toList = start ++ '/' :: name.toList) ∨
    (directory ≠ "" ∧ endsInSlash directory = false ∧
      (join directory name).toList = directory.toList ++ '/' :: name.toList) := by
  by_cases empty : directory = ""
  · subst empty
    exact .inl ⟨rfl, by simp [join]⟩
  by_cases slashed : endsInSlash directory = true
  · obtain ⟨start, spelled⟩ := endsInSlash_iff.1 slashed
    refine .inr (.inl ⟨start, spelled, ?_⟩)
    rw [join_of_isArtifactName isName, if_pos (by simp [slashed]), String.toList_append, spelled, List.append_assoc]
    rfl
  · refine .inr (.inr ⟨empty, eq_false_of_ne_true slashed, ?_⟩)
    rw [join_of_isArtifactName isName, if_neg (by simp [empty, slashed]), String.toList_append, String.toList_append,
      List.append_assoc]
    rfl

/-- **The steps of an artifact's path are those into the directory, and down to the name.** -/
theorem steps_join (isName : IsArtifactName name) (directory : String) :
    steps (join directory name) = entering directory ++ [.down name] := by
  have down : [name].filterMap step? = [.down name] := by
    rw [List.filterMap_cons_some (step?_of_isArtifactName isName), List.filterMap_nil]
  have unslashed : endsInSlash (join directory name) = false := by
    obtain ⟨before, spelled⟩ : ∃ before, (join directory name).toList = before ++ name.toList := by
      rcases toList_join isName directory with ⟨-, spelled⟩ | ⟨start, -, spelled⟩ | ⟨-, -, spelled⟩
      · exact ⟨[], spelled⟩
      · exact ⟨start ++ ['/'], by rw [spelled, List.append_assoc]; rfl⟩
      · exact ⟨directory.toList ++ ['/'], by rw [spelled, List.append_assoc]; rfl⟩
    have nonempty : name.toList ≠ [] := fun empty => isName.1 (String.toList_eq_nil_iff.1 empty)
    refine eq_false_of_ne_true fun slashed => isName.2.2.2.1 ?_
    rw [endsInSlash, beq_iff_eq, spelled, List.getLast?_append_of_ne_nil _ nonempty] at slashed
    exact List.mem_of_getLast? slashed
  rw [steps_eq, unslashed, entering, entering]
  rcases toList_join isName directory with ⟨rfl, spelled⟩ | ⟨start, ends, spelled⟩ | ⟨-, -, spelled⟩
  · rw [String.toList_injective spelled, pieces_of_isArtifactName isName, down]
    rfl
  · have last : pieces directory = pieces (String.ofList start) ++ [""] := by
      rw [pieces, pieces, ends, List.splitOn_append_cons_self, List.map_append, String.toList_ofList]
      rfl
    rw [pieces_append isName spelled, last, List.filterMap_append, List.filterMap_append, down]
    simp [step?]
  · rw [pieces_append isName spelled, String.ofList_toList, List.filterMap_append, down]
    simp

theorem fromRoot_join (isName : IsArtifactName name) (directory : String) :
    fromRoot (join directory name) = fromRoot directory := by
  rw [fromRoot, fromRoot]
  rcases toList_join isName directory with ⟨rfl, spelled⟩ | ⟨start, ends, spelled⟩ | ⟨nonempty, -, spelled⟩
  · rw [spelled]
    exact fromRoot_of_isArtifactName isName
  · rw [spelled, ends]
    cases start <;> rfl
  · rw [spelled]
    cases letters : directory.toList with
    | nil => exact absurd (String.toList_eq_nil_iff.1 letters) nonempty
    | cons first rest => rfl

theorem join_ne_empty (isName : IsArtifactName name) (directory : String) : join directory name ≠ "" := by
  intro empty
  have stepless := steps_join isName directory
  rw [empty] at stepless
  exact List.append_ne_nil_of_right_ne_nil _ (List.cons_ne_nil _ []) stepless.symm

end Path

namespace FileSystem

open DispatchChain.Path (Step)

/-- **The steps enter a directory**, through at most so many links.  `spare` links may still be followed from there. -/
inductive Enters (fs : FileSystem) :
    (links : Nat) → Location → List Step → (spare : Nat) → (inside : Location) → Prop
  | here {links location} : Enters fs links location [] links location
  | stay {links location steps spare inside} : Enters fs links location steps spare inside →
      Enters fs links location (.stay :: steps) spare inside
  | slash {links location steps spare inside} : Enters fs links location steps spare inside →
      Enters fs links location (.slash :: steps) spare inside
  | up {links location steps spare inside} : Enters fs links location.dropLast steps spare inside →
      Enters fs links location (.up :: steps) spare inside
  | enter {links location first steps spare inside} : ¬ maxName < first.utf8ByteSize →
      fs.lookup (location ++ [first]) = some .directory →
      Enters fs links (location ++ [first]) steps spare inside →
      Enters fs links location (.down first :: steps) spare inside
  | follow {links location first target steps spare inside} : ¬ maxName < first.utf8ByteSize →
      fs.lookup (location ++ [first]) = some (.link target) → target ≠ "" →
      Enters fs links (if Path.fromRoot target then [] else location) (Path.steps target ++ steps) spare inside →
      Enters fs (links + 1) location (.down first :: steps) spare inside

variable {fs fs' : FileSystem} {purpose : Purpose} {links spare : Nat} {location inside : Location}
  {steps : List Step} {name : String}

theorem append_down_ne_slash : steps ++ [.down name] ≠ [.slash] := by
  intro same
  have last := congrArg List.getLast? same
  rw [List.getLast?_append] at last
  cases last

/-- **Once the directory is entered, only the rest is left to go**, if the path is not one at which a file is created,
and not one whose last link is looked at. -/
theorem Enters.walk_rest (enters : Enters fs links location steps spare inside) {rest : List Step}
    (creates : purpose = .create → ∀ before, before ++ rest ≠ [.slash]) (looks : purpose = .inspect → rest ≠ []) :
    walk fs purpose links location (steps ++ rest) = walk fs purpose spare inside rest := by
  induction enters with
  | here => rfl
  | stay _ ih => rw [List.cons_append, walk_stay]; exact ih
  | slash _ ih => rw [List.cons_append, walk_slash]; exact ih
  | up _ ih => rw [List.cons_append, walk_up]; exact ih
  | enter short isDirectory _ ih =>
    rw [List.cons_append, walk_down, if_neg (fun refused => creates refused.1 _ refused.2), if_neg short, isDirectory]
    exact ih
  | follow short isLink nonempty _ ih =>
    rw [List.cons_append, walk_down, if_neg (fun refused => creates refused.1 _ refused.2), if_neg short, isLink]
    simp only
    rw [if_neg (fun ended => looks ended.2 (List.append_eq_nil_iff.1 ended.1).2), followLink, if_neg nonempty,
      ← List.append_assoc]
    exact ih

/-- **Once the directory is entered, only the name is left to go.** -/
theorem Enters.walk_append (enters : Enters fs links location steps spare inside) (purpose : Purpose) (name : String) :
    walk fs purpose links location (steps ++ [.down name]) = walk fs purpose spare inside [.down name] :=
  enters.walk_rest (fun _ _ => append_down_ne_slash) (fun _ => List.cons_ne_nil _ _)

/-- **What leads on to a name, or leads to a directory, enters a directory.** -/
theorem enters_of_walk (fs : FileSystem) {rest : List Step} :
    ∀ (links : Nat) (location : Location) (steps : List Step) {place : Place},
      walk fs purpose links location (steps ++ rest) = .ok place →
      ((∃ name, rest = [.down name]) ∨ rest = [] ∧ ∃ inside, place = .directory inside) →
      ∃ spare inside, Enters fs links location steps spare inside
  | links, location, [], _, _, _ => ⟨links, location, .here⟩
  | links, location, .stay :: steps, _, h, ends => by
    rw [List.cons_append, walk_stay] at h
    obtain ⟨spare, inside, enters⟩ := enters_of_walk fs links location steps h ends
    exact ⟨spare, inside, .stay enters⟩
  | links, location, .slash :: steps, _, h, ends => by
    rw [List.cons_append, walk_slash] at h
    obtain ⟨spare, inside, enters⟩ := enters_of_walk fs links location steps h ends
    exact ⟨spare, inside, .slash enters⟩
  | links, location, .up :: steps, _, h, ends => by
    rw [List.cons_append, walk_up] at h
    obtain ⟨spare, inside, enters⟩ := enters_of_walk fs links location.dropLast steps h ends
    exact ⟨spare, inside, .up enters⟩
  | links, location, .down first :: steps, place, h, ends => by
    rw [List.cons_append, walk_down] at h
    by_cases refused : purpose = .create ∧ steps ++ rest = [.slash]
    · rw [if_pos refused] at h; cases h
    by_cases long : maxName < first.utf8ByteSize
    · rw [if_neg refused, if_pos long] at h; cases h
    rw [if_neg refused, if_neg long] at h
    -- Nothing, a file, the device and a link to look at are where a walk ends, and none is a directory.
    have last {there : Place} {error : FileError} {ended : Prop} [Decidable ended]
        (elsewhere : ∀ inside, there ≠ .directory inside) (stops : ended → ∀ name, rest ≠ [.down name])
        (led : (if ended then Except.ok there else .error error) = .ok place) : False := by
      by_cases isEnd : ended
      · rw [if_pos isEnd] at led; cases led
        rcases ends with ⟨name, isDown⟩ | ⟨-, inside, isDirectory⟩
        · exact stops isEnd name isDown
        · exact elsewhere inside isDirectory
      · rw [if_neg isEnd] at led; cases led
    have on (name : String) (isDown : rest = [.down name]) : steps ++ rest ≠ [] ∧ steps ++ rest ≠ [.slash] := by
      subst isDown
      exact ⟨List.append_ne_nil_of_right_ne_nil steps (List.cons_ne_nil _ []), append_down_ne_slash⟩
    cases found : fs.lookup (location ++ [first]) with
    | none =>
      simp only [found] at h
      exact (last (by simp) (fun ended name isDown => ended.elim (on name isDown).1 (on name isDown).2) h).elim
    | some entry =>
      cases entry with
      | directory =>
        simp only [found] at h
        obtain ⟨spare, inside, enters⟩ := enters_of_walk fs links (location ++ [first]) steps h ends
        exact ⟨spare, inside, .enter long found enters⟩
      | file bytes =>
        simp only [found] at h
        exact (last (by simp) (fun ended name isDown => (on name isDown).1 ended) h).elim
      | fullDevice =>
        simp only [found] at h
        exact (last (by simp) (fun ended name isDown => (on name isDown).1 ended) h).elim
      | link target =>
        simp only [found] at h
        by_cases looked : steps ++ rest = [] ∧ purpose = .inspect
        · rw [if_pos looked] at h; cases h
          rcases ends with ⟨name, isDown⟩ | ⟨-, inside, isDirectory⟩
          · exact absurd looked.1 (on name isDown).1
          · cases isDirectory
        rw [if_neg looked] at h
        cases links with
        | zero => cases h
        | succ links =>
          rw [followLink] at h
          by_cases empty : target = ""
          · rw [if_pos empty] at h; cases h
          rw [if_neg empty, ← List.append_assoc] at h
          obtain ⟨spare, inside, enters⟩ := enters_of_walk fs links _ _ h ends
          exact ⟨spare, inside, .follow long found empty enters⟩
termination_by links _ steps => (links, steps.length)

/-- A slash at the end asks for a directory, and one is entered. -/
theorem Enters.of_slash (enters : Enters fs links location (steps ++ [.slash]) spare inside) :
    Enters fs links location steps spare inside := by
  generalize whole : steps ++ [.slash] = slashed at enters
  induction enters generalizing steps with
  | here => cases steps <;> cases whole
  | stay _ ih =>
    cases steps with
    | nil => cases whole
    | cons step steps =>
      cases whole
      exact .stay (ih rfl)
  | slash enters ih =>
    cases steps with
    | nil => cases whole; exact enters
    | cons step steps =>
      cases whole
      exact .slash (ih rfl)
  | up _ ih =>
    cases steps with
    | nil => cases whole
    | cons step steps =>
      cases whole
      exact .up (ih rfl)
  | enter short isDirectory _ ih =>
    cases steps with
    | nil => cases whole
    | cons step steps =>
      cases whole
      exact .enter short isDirectory (ih rfl)
  | follow short isLink nonempty _ ih =>
    cases steps with
    | nil => cases whole
    | cons step steps =>
      cases whole
      exact .follow short isLink nonempty (ih (List.append_assoc ..))

/-- A link with these contents in a directory leads straight to the device, through no other link. -/
def NamesDevice (fs : FileSystem) (inside : Location) (target : String) (device : Location) : Prop :=
  walk fs .openExisting 0 (if Path.fromRoot target then [] else inside) (Path.steps target) =
    .ok (.fullDevice device)

/-- A way without links is open wherever its directories are, whatever the path is followed for. -/
theorem Arrives.straight {parent : Location} {purpose' : Purpose} {links' : Nat}
    (arrives : Arrives fs purpose links location steps parent name) (linkless : links = 0)
    (directories : ∀ location, fs.lookup location = some .directory → fs'.lookup location = some .directory) :
    Arrives fs' purpose' links' location steps parent name := by
  induction arrives with
  | here short => exact .here short
  | stay _ ih => exact .stay (ih linkless)
  | slash _ ih => exact .slash (ih linkless)
  | up _ ih => exact .up (ih linkless)
  | enter short isDirectory _ ih => exact .enter short (directories _ isDirectory) (ih linkless)
  | follow _ _ _ _ _ _ => cases linkless

/-- **A way without links that ends at the device enters nothing.** -/
theorem Arrives.not_enters {parent : Location} {links' : Nat} {rest : List Step}
    (arrives : Arrives fs purpose links location steps parent name) (linkless : links = 0)
    (device : fs.lookup (parent ++ [name]) = some .fullDevice) :
    ¬ Enters fs links' location (steps ++ rest) spare inside := by
  induction arrives with
  | here short =>
    intro enters
    cases enters with
    | enter _ isDirectory _ => rw [device] at isDirectory; cases isDirectory
    | follow _ isLink _ _ => rw [device] at isLink; cases isLink
  | stay _ ih =>
    rintro ⟨⟩
    exact ih linkless device ‹_›
  | slash _ ih =>
    rintro ⟨⟩
    exact ih linkless device ‹_›
  | up _ ih =>
    rintro ⟨⟩
    exact ih linkless device ‹_›
  | enter short isDirectory _ ih =>
    intro enters
    cases enters with
    | enter _ _ enters => exact ih linkless device enters
    | follow _ isLink _ _ => rw [isDirectory] at isLink; cases isLink
  | follow _ _ _ _ _ _ => cases linkless

theorem NamesDevice.arrives {target : String} {device : Location} (names : fs.NamesDevice inside target device) :
    ∃ parent name, Arrives fs .openExisting 0 (if Path.fromRoot target then [] else inside) (Path.steps target)
      parent name ∧ device = parent ++ [name] ∧ fs.lookup (parent ++ [name]) = some .fullDevice := by
  obtain ⟨parent, name, arrives, there⟩ := arrives_of_walk fs 0 _ _ names (by simp) (.inr (by simp))
  obtain ⟨at_, stands⟩ := Place.of_eq_standing there
  exact ⟨parent, name, arrives, at_, stands⟩

theorem NamesDevice.lookup {target : String} {device : Location} (names : fs.NamesDevice inside target device) :
    fs.lookup device = some .fullDevice := by
  obtain ⟨parent, name, -, rfl, stands⟩ := names.arrives
  exact stands

/-- **A link to the device is followed to it**, if one more link may be followed. -/
theorem NamesDevice.followLink {target : String} {device : Location} (names : fs.NamesDevice inside target device)
    (purpose : Purpose) (links : Nat) :
    fs.followLink purpose (links + 1) inside target [] = .ok (.fullDevice device) := by
  obtain ⟨parent, name, arrives, rfl, stands⟩ := names.arrives
  have nonempty : target ≠ "" := by
    rintro rfl
    cases arrives
  rw [FileSystem.followLink, if_neg nonempty, List.append_nil,
    walk_of_arrives (arrives.straight rfl fun _ isDirectory => isDirectory) (.inr (by simp [stands])), placeAt, stands]
  rfl

/-- Through what stands there, nothing can be entered: nothing, a file, the device, or a link straight to it. -/
def Impassable (fs : FileSystem) (location : Location) : Prop :=
  fs.lookup location = none ∨ (∃ bytes, fs.lookup location = some (.file bytes)) ∨
    fs.lookup location = some .fullDevice ∨
    ∃ target device, fs.lookup location = some (.link target) ∧ fs.NamesDevice location.dropLast target device

theorem Impassable.lookup_ne_directory (impassable : fs.Impassable location) :
    fs.lookup location ≠ some .directory := by
  rcases impassable with stands | ⟨bytes, stands⟩ | stands | ⟨target, device, stands, -⟩ <;> simp [stands]

/-- What can be passed through stands in another file system as it does here. -/
structure SamePassages (fs fs' : FileSystem) : Prop where
  here : fs'.here = fs.here
  kept : ∀ location, ¬ fs.Impassable location → fs'.lookup location = fs.lookup location

theorem SamePassages.directory (same : SamePassages fs fs') (isDirectory : fs.lookup location = some .directory) :
    fs'.lookup location = some .directory := by
  rw [same.kept location fun impassable => impassable.lookup_ne_directory isDirectory, isDirectory]

theorem NamesDevice.frame {target : String} {device : Location} (names : fs.NamesDevice inside target device)
    (same : SamePassages fs fs') (stands : fs'.lookup device = some .fullDevice) :
    fs'.NamesDevice inside target device := by
  obtain ⟨parent, name, arrives, rfl, -⟩ := names.arrives
  rw [NamesDevice, walk_of_arrives (arrives.straight rfl fun _ => same.directory) (.inr (by simp [stands])), placeAt,
    stands]
  rfl

/-- **A way into a directory stays open** while nothing changes that can be passed through. -/
theorem Enters.frame (enters : Enters fs links location steps spare inside) (same : SamePassages fs fs') :
    Enters fs' links location steps spare inside := by
  induction enters with
  | here => exact .here
  | stay _ ih => exact .stay ih
  | slash _ ih => exact .slash ih
  | up _ ih => exact .up ih
  | enter short isDirectory _ ih => exact .enter short (same.directory isDirectory) ih
  | @follow _ location first target _ _ _ short isLink nonempty enters ih =>
    have passable : ¬ fs.Impassable (location ++ [first]) := by
      rintro (stands | ⟨bytes, stands⟩ | stands | ⟨target', device, stands, names⟩)
      all_goals rw [isLink] at stands; cases stands
      obtain ⟨parent, name, arrives, -, device⟩ := names.arrives
      rw [List.dropLast_concat] at arrives
      exact arrives.not_enters rfl device enters
    exact .follow short (by rw [same.kept _ passable, isLink]) nonempty ih

def Opens (fs : FileSystem) (directory : String) (spare : Nat) (inside : Location) : Prop :=
  Enters fs maxLinks (if Path.fromRoot directory then [] else fs.here) (Path.entering directory) spare inside

def Closed (fs : FileSystem) (directory : String) : Prop := ∀ spare inside, ¬ fs.Opens directory spare inside

theorem opens_or_closed (fs : FileSystem) (directory : String) :
    (∃ spare inside, fs.Opens directory spare inside) ∨ fs.Closed directory := by
  by_cases entered : ∃ spare inside, fs.Opens directory spare inside
  · exact .inl entered
  · exact .inr fun spare inside opens => entered ⟨spare, inside, opens⟩

variable {directory : String}

theorem Opens.frame (opens : fs.Opens directory spare inside) (same : SamePassages fs fs') :
    fs'.Opens directory spare inside := by
  rw [Opens, same.here]
  exact Enters.frame opens same

theorem opens_here (fs : FileSystem) : fs.Opens "" maxLinks fs.here := .here

/-- **The path of an existing directory enters it.** -/
theorem opens_of_locate? {place : Location} (located : fs.locate? purpose directory = .ok (.directory place)) :
    ∃ spare inside, fs.Opens directory spare inside := by
  unfold locate? at located
  by_cases nul : '\x00' ∈ directory.toList
  · rw [if_pos nul] at located; cases located
  by_cases empty : directory = ""
  · rw [if_neg nul, if_pos empty] at located; cases located
  by_cases long : maxPath < directory.utf8ByteSize
  · rw [if_neg nul, if_neg empty, if_pos long] at located; cases located
  rw [if_neg nul, if_neg empty, if_neg long, ← List.append_nil (Path.steps directory)] at located
  obtain ⟨spare, inside, enters⟩ := enters_of_walk fs _ _ _ located (.inr ⟨rfl, place, rfl⟩)
  rw [Path.steps_eq] at enters
  by_cases slashed : Path.endsInSlash directory = true
  · rw [if_pos slashed] at enters
    exact ⟨spare, inside, enters.of_slash⟩
  · rw [if_neg slashed, List.append_nil] at enters
    exact ⟨spare, inside, enters⟩

/-- **A directory that is entered is what its path leads to**, if the path is one that may be followed. -/
theorem locate?_of_opens (opens : fs.Opens directory spare inside) (nul_free : '\x00' ∉ directory.toList)
    (nonempty : directory ≠ "") (short : ¬ maxPath < directory.utf8ByteSize) :
    fs.locate? .openExisting directory = .ok (.directory inside) := by
  rw [locate?, if_neg nul_free, if_neg nonempty, if_neg short, Path.steps_eq,
    Enters.walk_rest opens (by simp) (by simp)]
  split
  · rw [walk_slash, walk_nil]
  · rw [walk_nil]

/-- Why a path with a name at its end is refused, whatever stands there. -/
def refusal (path name : String) : Option FileError :=
  if '\x00' ∈ path.toList then some .nulInPath
  else if maxPath < path.utf8ByteSize then some .nameTooLong
  else if maxName < name.utf8ByteSize then some .nameTooLong
  else none

/-- **Where the directory can be entered, the name decides what the path of an artifact leads to.** -/
theorem locate?_join (opens : fs.Opens directory spare inside) (isName : IsArtifactName name) (purpose : Purpose) :
    fs.locate? purpose (Path.join directory name) =
      match refusal (Path.join directory name) name with
      | some error => .error error
      | none =>
        match fs.lookup (inside ++ [name]) with
        | some (.link target) =>
          if purpose = .inspect then .ok (.link (inside ++ [name]) target)
          else fs.followLink purpose spare inside target []
        | entry => .ok (.standing inside name entry) := by
  rw [locate?, refusal]
  by_cases nul : '\x00' ∈ (Path.join directory name).toList
  · rw [if_pos nul, if_pos nul]
  rw [if_neg nul, if_neg nul, if_neg (Path.join_ne_empty isName directory)]
  by_cases long : maxPath < (Path.join directory name).utf8ByteSize
  · rw [if_pos long, if_pos long]
  rw [if_neg long, if_neg long, Path.fromRoot_join isName, Path.steps_join isName, Enters.walk_append opens, walk_down,
    if_neg (by simp)]
  by_cases longName : maxName < name.utf8ByteSize
  · rw [if_pos longName, if_pos longName]
  rw [if_neg longName, if_neg longName]
  rcases fs.lookup (inside ++ [name]) with _ | _ | bytes | target | _
  · simp [Place.standing]
  · simp [walk_nil, Place.standing]
  · simp [Place.standing]
  · simp
  · simp [Place.standing]

section

variable (opens : fs.Opens directory spare inside) (isName : IsArtifactName name)

include opens isName

theorem locate?_of_refused {error : FileError} (refused : refusal (Path.join directory name) name = some error)
    (purpose : Purpose) : fs.locate? purpose (Path.join directory name) = .error error := by
  rw [locate?_join opens isName, refused]

theorem locate?_of_accepted (accepted : refusal (Path.join directory name) name = none)
    (stops : purpose = .inspect ∨ ∀ target, fs.lookup (inside ++ [name]) ≠ some (.link target)) :
    fs.locate? purpose (Path.join directory name) = .ok (fs.placeAt inside name) := by
  rw [locate?_join opens isName, accepted, placeAt]
  simp only
  split
  · rename_i target isLink
    have looks : purpose = .inspect := stops.resolve_right fun unlinked => unlinked target isLink
    rw [if_pos looks, isLink]
    rfl
  · rfl

theorem locate?_of_link {target : String} (accepted : refusal (Path.join directory name) name = none)
    (isLink : fs.lookup (inside ++ [name]) = some (.link target)) (follows : purpose ≠ .inspect) :
    fs.locate? purpose (Path.join directory name) = fs.followLink purpose spare inside target [] := by
  rw [locate?_join opens isName, accepted, isLink]
  exact if_neg follows

end

/-- **If the path of one artifact leads anywhere, the directory can be entered.** -/
theorem opens_of_locate?_join {place : Place} (isName : IsArtifactName name)
    (located : fs.locate? purpose (Path.join directory name) = .ok place) :
    ∃ spare inside, fs.Opens directory spare inside := by
  rw [locate?] at located
  by_cases nul : '\x00' ∈ (Path.join directory name).toList
  · rw [if_pos nul] at located; cases located
  rw [if_neg nul, if_neg (Path.join_ne_empty isName directory)] at located
  by_cases long : maxPath < (Path.join directory name).utf8ByteSize
  · rw [if_pos long] at located; cases located
  rw [if_neg long, Path.fromRoot_join isName, Path.steps_join isName] at located
  exact enters_of_walk fs _ _ _ located (.inl ⟨name, rfl⟩)

end FileSystem

end DispatchChain
