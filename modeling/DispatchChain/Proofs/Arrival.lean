import DispatchChain.FileSystem
/-!
# Arrival — the ways that paths take

A path arrives at a name in a directory: it goes from directory to directory, through links, and its
last step is the name.  What stands there is where the path leads (`FileSystem.walk_of_arrives`), and
everything but a directory is led to in this way only (`FileSystem.arrives_of_walk`).  A way uses directories and
links only, so it is open in every file system that has these (`FileSystem.Arrives.mono`).  Looked at
without following a link at its end, a path arrives at the same name or at a link on the way there
(`FileSystem.Arrives.inspect`).
-/
namespace DispatchChain

/-- The place that a path leads to, by what stands at a name in a directory. -/
def Place.standing (parent : Location) (name : String) : Option Entry → Place
  | none => .vacant parent name
  | some .directory => .directory (parent ++ [name])
  | some (.file bytes) => .file (parent ++ [name]) bytes
  | some (.link target) => .link (parent ++ [name]) target
  | some .fullDevice => .fullDevice (parent ++ [name])

def Place.location : Place → Location
  | .directory location | .file location _ | .link location _ | .fullDevice location => location
  | .vacant parent name => parent ++ [name]

def Place.entry : Place → Option Entry
  | .directory _ => some .directory
  | .file _ bytes => some (.file bytes)
  | .link _ target => some (.link target)
  | .fullDevice _ => some .fullDevice
  | .vacant _ _ => none

theorem Place.location_standing (parent : Location) (name : String) (entry : Option Entry) :
    (Place.standing parent name entry).location = parent ++ [name] := by
  rcases entry with _ | _ | _ | _ | _ <;> rfl

theorem Place.entry_standing (parent : Location) (name : String) (entry : Option Entry) :
    (Place.standing parent name entry).entry = entry := by
  rcases entry with _ | _ | _ | _ | _ <;> rfl

theorem Place.of_eq_standing {place : Place} {parent : Location} {name : String} {entry : Option Entry}
    (there : place = .standing parent name entry) : place.location = parent ++ [name] ∧ entry = place.entry :=
  ⟨by rw [there, location_standing], by rw [there, entry_standing]⟩

namespace FileSystem

open DispatchChain.Path (Step)

/-- **The steps lead from a directory**, through at most so many links, **to a name in a directory**.  A
link at the end is a way on, unless it is what the path is followed for. -/
inductive Arrives (fs : FileSystem) (purpose : Purpose) :
    (links : Nat) → Location → List Step → (parent : Location) → (name : String) → Prop
  | here {links location name} : ¬ maxName < name.utf8ByteSize →
      Arrives fs purpose links location [.down name] location name
  | stay {links location steps parent name} : Arrives fs purpose links location steps parent name →
      Arrives fs purpose links location (.stay :: steps) parent name
  | slash {links location steps parent name} : Arrives fs purpose links location steps parent name →
      Arrives fs purpose links location (.slash :: steps) parent name
  | up {links location steps parent name} : Arrives fs purpose links location.dropLast steps parent name →
      Arrives fs purpose links location (.up :: steps) parent name
  | enter {links location first steps parent name} : ¬ maxName < first.utf8ByteSize →
      fs.lookup (location ++ [first]) = some .directory →
      Arrives fs purpose links (location ++ [first]) steps parent name →
      Arrives fs purpose links location (.down first :: steps) parent name
  | follow {links location first target steps parent name} : ¬ maxName < first.utf8ByteSize →
      fs.lookup (location ++ [first]) = some (.link target) → target ≠ "" →
      ¬ (steps = [] ∧ purpose = .inspect) →
      Arrives fs purpose links (if Path.fromRoot target then [] else location) (Path.steps target ++ steps)
        parent name →
      Arrives fs purpose (links + 1) location (.down first :: steps) parent name

/-- Goes on through a link, if one more may be followed. -/
def followLink (fs : FileSystem) (purpose : Purpose) :
    (links : Nat) → Location → String → List Step → Except FileError Place
  | 0, _, _, _ => .error .tooManyLinks
  | links + 1, location, target, steps =>
    if target = "" then .error .notFound
    else walk fs purpose links (if Path.fromRoot target then [] else location) (Path.steps target ++ steps)

def placeAt (fs : FileSystem) (parent : Location) (name : String) : Place :=
  .standing parent name (fs.lookup (parent ++ [name]))

variable {fs : FileSystem} {purpose : Purpose} {links : Nat} {location parent : Location} {steps : List Step}
  {name : String}

theorem walk_eq_walkWith (fs : FileSystem) (purpose : Purpose) (links : Nat) :
    walk fs purpose links = walkWith fs purpose (followLink fs purpose links) := by
  cases links <;> rfl

theorem walk_nil : walk fs purpose links location [] = .ok (.directory location) := by
  rw [walk_eq_walkWith]; rfl

theorem walk_stay : walk fs purpose links location (.stay :: steps) = walk fs purpose links location steps := by
  rw [walk_eq_walkWith]; rfl

theorem walk_slash : walk fs purpose links location (.slash :: steps) = walk fs purpose links location steps := by
  rw [walk_eq_walkWith]; rfl

theorem walk_up : walk fs purpose links location (.up :: steps) =
    walk fs purpose links location.dropLast steps := by
  rw [walk_eq_walkWith]; rfl

theorem walk_down : walk fs purpose links location (.down name :: steps) =
    if purpose = .create ∧ steps = [.slash] then .error .isDirectory
    else if maxName < name.utf8ByteSize then .error .nameTooLong
    else match fs.lookup (location ++ [name]) with
      | none => if steps = [] ∨ steps = [.slash] then .ok (.vacant location name) else .error .notFound
      | some .directory => walk fs purpose links (location ++ [name]) steps
      | some (.file bytes) => if steps = [] then .ok (.file (location ++ [name]) bytes) else .error .notDirectory
      | some .fullDevice => if steps = [] then .ok (.fullDevice (location ++ [name])) else .error .notDirectory
      | some (.link target) =>
        if steps = [] ∧ purpose = .inspect then .ok (.link (location ++ [name]) target)
        else followLink fs purpose links location target steps := by
  rw [walk_eq_walkWith]; rfl

theorem Arrives.getLast? (arrives : Arrives fs purpose links location steps parent name) :
    ∃ last, steps.getLast? = some (.down last) := by
  induction arrives with
  | here _ => exact ⟨_, rfl⟩
  | stay _ ih | slash _ ih | up _ ih | enter _ _ _ ih =>
    obtain ⟨last, ends⟩ := ih
    exact ⟨last, by rw [List.getLast?_cons, ends]; rfl⟩
  | @follow _ _ first target steps _ _ _ _ _ _ _ ih =>
    cases steps with
    | nil => exact ⟨first, rfl⟩
    | cons step steps =>
      obtain ⟨last, ends⟩ := ih
      rw [List.getLast?_append, List.getLast?_cons] at ends
      exact ⟨last, by rw [List.getLast?_cons_cons, List.getLast?_cons]; exact ends⟩

theorem Arrives.tail_ne_slash {first : String}
    (arrives : Arrives fs purpose links location (.down first :: steps) parent name) : steps ≠ [.slash] := by
  rintro rfl
  obtain ⟨_, ends⟩ := arrives.getLast?
  cases ends

/-- **A path leads to what stands where it arrives**, unless that is a link to be followed. -/
theorem walk_of_arrives (arrives : Arrives fs purpose links location steps parent name) :
    (purpose = .inspect ∨ ∀ target, fs.lookup (parent ++ [name]) ≠ some (.link target)) →
      walk fs purpose links location steps = .ok (fs.placeAt parent name) := by
  intro stops
  induction arrives with
  | here short =>
    rw [walk_down, if_neg (by simp), if_neg short, placeAt]
    cases found : fs.lookup (_ ++ [_]) with
    | none => simp [Place.standing]
    | some entry =>
      cases entry with
      | link target =>
        have looks : purpose = .inspect := stops.resolve_right fun unlinked => unlinked target found
        simp [looks, Place.standing]
      | _ => simp [walk_nil, Place.standing]
  | stay _ ih => rw [walk_stay]; exact ih stops
  | slash _ ih => rw [walk_slash]; exact ih stops
  | up _ ih => rw [walk_up]; exact ih stops
  | enter short isDirectory rest ih =>
    have unslashed := (Arrives.enter short isDirectory rest).tail_ne_slash
    rw [walk_down, if_neg (fun refused => unslashed refused.2), if_neg short, isDirectory]
    exact ih stops
  | follow short isLink nonempty goesOn rest ih =>
    have unslashed := (Arrives.follow short isLink nonempty goesOn rest).tail_ne_slash
    rw [walk_down, if_neg (fun refused => unslashed refused.2), if_neg short, isLink]
    simp only
    rw [if_neg goesOn, followLink, if_neg nonempty]
    exact ih stops

/-- **A path that leads to something else than a directory arrives there.**  It arrives at a vacant place
too if it is followed to create a file. -/
theorem arrives_of_walk (fs : FileSystem) : ∀ (links : Nat) (location : Location) (steps : List Step) {place : Place},
    walk fs purpose links location steps = .ok place → (∀ at_, place ≠ .directory at_) →
      (purpose = .create ∨ ∀ parent name, place ≠ .vacant parent name) →
      ∃ parent name, Arrives fs purpose links location steps parent name ∧ place = fs.placeAt parent name
  | _, location, [], place, h, elsewhere, present => by
    rw [walk_nil] at h; cases h
    exact absurd rfl (elsewhere location)
  | links, location, .stay :: steps, place, h, elsewhere, present => by
    rw [walk_stay] at h
    obtain ⟨parent, name, arrives, there⟩ := arrives_of_walk fs links location steps h elsewhere present
    exact ⟨parent, name, .stay arrives, there⟩
  | links, location, .slash :: steps, place, h, elsewhere, present => by
    rw [walk_slash] at h
    obtain ⟨parent, name, arrives, there⟩ := arrives_of_walk fs links location steps h elsewhere present
    exact ⟨parent, name, .slash arrives, there⟩
  | links, location, .up :: steps, place, h, elsewhere, present => by
    rw [walk_up] at h
    obtain ⟨parent, name, arrives, there⟩ := arrives_of_walk fs links location.dropLast steps h elsewhere present
    exact ⟨parent, name, .up arrives, there⟩
  | links, location, .down first :: steps, place, h, elsewhere, present => by
    rw [walk_down] at h
    by_cases refused : purpose = .create ∧ steps = [.slash]
    · rw [if_pos refused] at h; cases h
    by_cases long : maxName < first.utf8ByteSize
    · rw [if_neg refused, if_pos long] at h; cases h
    rw [if_neg refused, if_neg long] at h
    -- Nothing, a file and the device are where a path arrives; a directory and a link are ways on.
    have last {there : Place} {error : FileError} (placed : there = fs.placeAt location first)
        (led : (if steps = [] then Except.ok there else .error error) = .ok place) :
        ∃ parent name, Arrives fs purpose links location (.down first :: steps) parent name ∧
          place = fs.placeAt parent name := by
      by_cases ended : steps = []
      · rw [if_pos ended] at led; cases led
        exact ⟨location, first, ended ▸ .here long, placed⟩
      · rw [if_neg ended] at led; cases led
    cases found : fs.lookup (location ++ [first]) with
    | none =>
      simp only [found] at h
      by_cases slashed : steps = [.slash]
      · rw [if_pos (.inr slashed)] at h; cases h
        have vacant : ∀ parent name, Place.vacant location first ≠ .vacant parent name :=
          present.resolve_left fun creating => refused ⟨creating, slashed⟩
        exact absurd rfl (vacant location first)
      · simp only [slashed, or_false] at h
        exact last (by rw [placeAt, found]; rfl) h
    | some entry =>
      cases entry with
      | directory =>
        simp only [found] at h
        obtain ⟨parent, name, arrives, there⟩ :=
          arrives_of_walk fs links (location ++ [first]) steps h elsewhere present
        exact ⟨parent, name, .enter long found arrives, there⟩
      | file bytes =>
        simp only [found] at h
        exact last (by rw [placeAt, found]; rfl) h
      | fullDevice =>
        simp only [found] at h
        exact last (by rw [placeAt, found]; rfl) h
      | link target =>
        simp only [found] at h
        by_cases looked : steps = [] ∧ purpose = .inspect
        · rw [if_pos looked] at h; cases h
          exact ⟨location, first, looked.1 ▸ .here long, by rw [placeAt, found]; rfl⟩
        rw [if_neg looked] at h
        cases links with
        | zero => cases h
        | succ links =>
          rw [followLink] at h
          by_cases empty : target = ""
          · rw [if_pos empty] at h; cases h
          rw [if_neg empty] at h
          obtain ⟨parent, name, arrives, there⟩ := arrives_of_walk fs links _ _ h elsewhere present
          exact ⟨parent, name, .follow long found empty looked arrives, there⟩
termination_by links _ steps => (links, steps.length)

/-- **A way stays a way if the path is followed for something else**, as long as links at its end are followed. -/
theorem Arrives.through {purpose' : Purpose} (follows : purpose' ≠ .inspect)
    (arrives : Arrives fs purpose links location steps parent name) :
    Arrives fs purpose' links location steps parent name := by
  induction arrives with
  | here short => exact .here short
  | stay _ ih => exact .stay ih
  | slash _ ih => exact .slash ih
  | up _ ih => exact .up ih
  | enter short isDirectory _ ih => exact .enter short isDirectory ih
  | follow short isLink nonempty _ _ ih =>
    exact .follow short isLink nonempty (fun last => follows last.2) ih

/-- **Looked at, a path arrives where it leads, or at a link on the way there.** -/
theorem Arrives.inspect (arrives : Arrives fs .create links location steps parent name) :
    Arrives fs .inspect links location steps parent name ∨
    ∃ parent' name' target, Arrives fs .inspect links location steps parent' name' ∧
      fs.lookup (parent' ++ [name']) = some (.link target) := by
  induction arrives with
  | here short => exact .inl (.here short)
  | stay _ ih => exact ih.imp .stay fun ⟨_, _, target, there, isLink⟩ => ⟨_, _, target, .stay there, isLink⟩
  | slash _ ih => exact ih.imp .slash fun ⟨_, _, target, there, isLink⟩ => ⟨_, _, target, .slash there, isLink⟩
  | up _ ih => exact ih.imp .up fun ⟨_, _, target, there, isLink⟩ => ⟨_, _, target, .up there, isLink⟩
  | enter short isDirectory _ ih =>
    exact ih.imp (.enter short isDirectory) fun ⟨_, _, target, there, isLink⟩ =>
      ⟨_, _, target, .enter short isDirectory there, isLink⟩
  | @follow _ location first target steps _ _ short isLink nonempty _ _ ih =>
    by_cases ended : steps = []
    · exact .inr ⟨location, first, target, ended ▸ .here short, isLink⟩
    · have goesOn : ¬ (steps = [] ∧ Purpose.inspect = .inspect) := fun last => ended last.1
      exact ih.imp (.follow short isLink nonempty goesOn) fun ⟨_, _, target, there, isLink'⟩ =>
        ⟨_, _, target, .follow short isLink nonempty goesOn there, isLink'⟩

/-- The directories, links and devices of one file system are in another, and paths start in the same
directory. -/
structure WaysIn (fs fs' : FileSystem) : Prop where
  here : fs'.here = fs.here
  directory : ∀ location, fs.lookup location = some .directory → fs'.lookup location = some .directory
  link : ∀ location target, fs.lookup location = some (.link target) → fs'.lookup location = some (.link target)
  fullDevice : ∀ location, fs.lookup location = some .fullDevice → fs'.lookup location = some .fullDevice

/-- **A way is open wherever its directories and its links are.** -/
theorem Arrives.mono {fs' : FileSystem} (ways : WaysIn fs fs')
    (arrives : Arrives fs purpose links location steps parent name) :
    Arrives fs' purpose links location steps parent name := by
  induction arrives with
  | here short => exact .here short
  | stay _ ih => exact .stay ih
  | slash _ ih => exact .slash ih
  | up _ ih => exact .up ih
  | enter short isDirectory _ ih => exact .enter short (ways.directory _ isDirectory) ih
  | follow short isLink nonempty goesOn _ ih => exact .follow short (ways.link _ _ isLink) nonempty goesOn ih

/-- A path that arrives at a name in a directory. -/
structure LeadsTo (fs : FileSystem) (purpose : Purpose) (path : String) (parent : Location) (name : String) : Prop where
  nul_free : '\x00' ∉ path.toList
  nonempty : path ≠ ""
  short : ¬ maxPath < path.utf8ByteSize
  arrives : Arrives fs purpose maxLinks (if Path.fromRoot path then [] else fs.here) (Path.steps path) parent name

variable {path : String}

theorem locate?_of_leadsTo {entry : Option Entry} (leads : fs.LeadsTo purpose path parent name)
    (stands : fs.lookup (parent ++ [name]) = entry)
    (stops : purpose = .inspect ∨ ∀ target, entry ≠ some (.link target)) :
    fs.locate? purpose path = .ok (.standing parent name entry) := by
  subst stands
  rw [locate?, if_neg leads.nul_free, if_neg leads.nonempty, if_neg leads.short]
  exact walk_of_arrives leads.arrives stops

/-- **A path that leads to something else than a directory arrives there.** -/
theorem leadsTo_of_locate? {place : Place} (located : fs.locate? purpose path = .ok place)
    (elsewhere : ∀ at_, place ≠ .directory at_)
    (present : purpose = .create ∨ ∀ parent name, place ≠ .vacant parent name) :
    ∃ parent name, fs.LeadsTo purpose path parent name ∧ place = fs.placeAt parent name := by
  unfold locate? at located
  by_cases nul : '\x00' ∈ path.toList
  · rw [if_pos nul] at located; cases located
  by_cases empty : path = ""
  · rw [if_neg nul, if_pos empty] at located; cases located
  by_cases long : maxPath < path.utf8ByteSize
  · rw [if_neg nul, if_neg empty, if_pos long] at located; cases located
  rw [if_neg nul, if_neg empty, if_neg long] at located
  obtain ⟨parent, name, arrives, there⟩ := arrives_of_walk fs _ _ _ located elsewhere present
  exact ⟨parent, name, ⟨nul, empty, long, arrives⟩, there⟩

theorem LeadsTo.through {purpose' : Purpose} (follows : purpose' ≠ .inspect)
    (leads : fs.LeadsTo purpose path parent name) : fs.LeadsTo purpose' path parent name :=
  { leads with arrives := leads.arrives.through follows }

theorem LeadsTo.inspect (leads : fs.LeadsTo .create path parent name) :
    fs.LeadsTo .inspect path parent name ∨
    ∃ parent' name' target, fs.LeadsTo .inspect path parent' name' ∧
      fs.lookup (parent' ++ [name']) = some (.link target) :=
  leads.arrives.inspect.imp (fun arrives => { leads with arrives }) fun ⟨parent', name', target, arrives, isLink⟩ =>
    ⟨parent', name', target, { leads with arrives }, isLink⟩

theorem LeadsTo.mono {fs' : FileSystem} (ways : WaysIn fs fs') (leads : fs.LeadsTo purpose path parent name) :
    fs'.LeadsTo purpose path parent name :=
  { leads with arrives := ways.here ▸ leads.arrives.mono ways }

theorem lookup_of_locate?_link {target : String} (located : fs.locate? purpose path = .ok (.link location target)) :
    fs.lookup location = some (.link target) := by
  obtain ⟨parent, name, _, there⟩ := leadsTo_of_locate? located (by simp) (.inr (by simp))
  obtain ⟨rfl, isLink⟩ := Place.of_eq_standing there
  exact isLink

theorem leadsTo_of_locate?_fullDevice (located : fs.locate? purpose path = .ok (.fullDevice location)) :
    ∃ parent name, fs.LeadsTo purpose path parent name ∧ location = parent ++ [name] ∧
      fs.lookup (parent ++ [name]) = some .fullDevice := by
  obtain ⟨parent, name, leads, there⟩ := leadsTo_of_locate? located (by simp) (.inr (by simp))
  obtain ⟨at_, device⟩ := Place.of_eq_standing there
  exact ⟨parent, name, leads, at_, device⟩

/-- **A path that leads to the device leads there whatever it is followed for**, if links at its end are followed. -/
theorem locate?_fullDevice_through {purpose' : Purpose} (follows : purpose' ≠ .inspect)
    (located : fs.locate? purpose path = .ok (.fullDevice location)) :
    fs.locate? purpose' path = .ok (.fullDevice location) := by
  obtain ⟨parent, name, leads, rfl, device⟩ := leadsTo_of_locate?_fullDevice located
  exact locate?_of_leadsTo (leads.through follows) device (.inr (by simp))

variable {fs' : FileSystem}

/-- **A path that stands for a link stands for it wherever its way is open.** -/
theorem locate?_link_mono {target : String} (ways : WaysIn fs fs')
    (located : fs.locate? .inspect path = .ok (.link location target)) :
    fs'.locate? .inspect path = .ok (.link location target) := by
  obtain ⟨parent, name, leads, there⟩ := leadsTo_of_locate? located (by simp) (.inr (by simp))
  obtain ⟨rfl, isLink⟩ := Place.of_eq_standing there
  exact locate?_of_leadsTo (leads.mono ways) (ways.link _ _ isLink) (.inl rfl)

/-- **A path that leads to the device leads to it wherever its way is open.** -/
theorem locate?_fullDevice_mono (ways : WaysIn fs fs')
    (located : fs.locate? purpose path = .ok (.fullDevice location)) :
    fs'.locate? purpose path = .ok (.fullDevice location) := by
  obtain ⟨parent, name, leads, rfl, device⟩ := leadsTo_of_locate?_fullDevice located
  exact locate?_of_leadsTo (leads.mono ways) (ways.fullDevice _ device) (.inr (by simp))

end FileSystem

end DispatchChain
