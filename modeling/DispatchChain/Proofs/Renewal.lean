import DispatchChain.Proofs.Entering
import DispatchChain.Proofs.Generation
/-!
# Renewal — generating an artifact as a change of one entry

Where the output directory can be entered, generating an artifact depends on what stands at its name, and changes that
and nothing else (`Workspace.generate_of_opens`); where it cannot be entered, nothing is generated
(`Workspace.generate_of_closed`).  So what a family answers and leaves can be told without the rest of the files,
`Family.renew`.
-/
namespace DispatchChain

namespace FileSystem

variable {fs : FileSystem} {location other : Location}

/-- Leaves an entry at a location, or none. -/
def set (fs : FileSystem) (location : Location) : Option Entry → FileSystem
  | none => fs.erase location
  | some entry => fs.put location entry

theorem getElem?_set (fs : FileSystem) (location : Location) (entry : Option Entry) (other : Location) :
    (fs.set location entry).entries[other]? = if other = location then entry else fs.entries[other]? := by
  have same_iff : compare location other = .eq ↔ other = location := by
    rw [Std.compare_eq_iff_eq, eq_comm]
  cases entry with
  | none => simp only [set, erase, Std.ExtTreeMap.getElem?_erase, same_iff]
  | some entry => simp only [set, put, Std.ExtTreeMap.getElem?_insert, same_iff]

theorem here_set (fs : FileSystem) (location : Location) (entry : Option Entry) :
    (fs.set location entry).here = fs.here := by
  cases entry <;> rfl

theorem ext_getElem? {fs' : FileSystem} (here : fs.here = fs'.here)
    (entries : ∀ location : Location, fs.entries[location]? = fs'.entries[location]?) : fs = fs' := by
  have same : fs.entries = fs'.entries := Std.ExtTreeMap.ext_getElem? entries
  obtain ⟨_, _⟩ := fs
  obtain ⟨_, _⟩ := fs'
  cases here
  cases same
  rfl

theorem lookup_set (fs : FileSystem) (entry : Option Entry) (other : Location) (below : location ≠ []) :
    (fs.set location entry).lookup other = if other = location then entry else fs.lookup other := by
  cases entry with
  | none => exact lookup_erase fs other below
  | some entry => exact lookup_put fs entry other below

theorem set_lookup (fs : FileSystem) (below : location ≠ []) : fs.set location (fs.lookup location) = fs := by
  refine ext_getElem? (here_set ..) fun other => ?_
  rw [getElem?_set, lookup, if_neg below]
  split
  · rename_i same; rw [same]
  · rfl

/-- **Changes at different locations can be made in any order.** -/
theorem set_comm (fs : FileSystem) (apart : location ≠ other) (entry entry' : Option Entry) :
    (fs.set location entry).set other entry' = (fs.set other entry').set location entry := by
  refine ext_getElem? (by simp only [here_set]) fun place => ?_
  rw [getElem?_set, getElem?_set, getElem?_set, getElem?_set]
  by_cases first : place = location
  · have apart' : place ≠ other := first ▸ apart
    rw [if_neg apart', if_pos first, if_pos first]
  · rw [if_neg first, if_neg first]

end FileSystem

open FileSystem

/-- **What generating an artifact answers, and what it leaves at its name**, by what stands there.  A link is taken to
lead straight to the device; it is followed if `spare` allows one more. -/
def Family.renew (directory : String) (spare : Nat) (family : Family) (stands : Option Entry) :
    Except Failure Nat × Option Entry :=
  let path := family.artifactPath directory
  match refusal path family.artifact with
  | some error => (.error (.file path error), stands)
  | none =>
    match stands with
    | none | some (.file _) => (.ok family.count, some (.file family.render.toByteArray))
    | some .directory => (.error (.file path .isDirectory), stands)
    | some .fullDevice => (.error (.file path .deviceFull), none)
    | some (.link _) =>
      if spare = 0 then (.error (.file path .tooManyLinks), stands) else (.error (.file path .deviceFull), none)

theorem Family.renew_of_refused {directory : String} {family : Family} {error : FileError}
    (refused : refusal (family.artifactPath directory) family.artifact = some error) (spare : Nat)
    (stands : Option Entry) :
    family.renew directory spare stands = (.error (.file (family.artifactPath directory) error), stands) := by
  unfold renew
  simp only [refused]

theorem Family.renew_of_accepted {directory : String} {family : Family}
    (accepted : refusal (family.artifactPath directory) family.artifact = none) (spare : Nat)
    (stands : Option Entry) :
    family.renew directory spare stands =
      match stands with
      | none | some (.file _) => (.ok family.count, some (.file family.render.toByteArray))
      | some .directory => (.error (.file (family.artifactPath directory) .isDirectory), stands)
      | some .fullDevice => (.error (.file (family.artifactPath directory) .deviceFull), none)
      | some (.link _) =>
        if spare = 0 then (.error (.file (family.artifactPath directory) .tooManyLinks), stands)
        else (.error (.file (family.artifactPath directory) .deviceFull), none) := by
  unfold renew
  simp only [accepted]

theorem Family.spare_of_renew_link {directory : String} {family : Family} {spare : Nat} {stands : Option Entry}
    {target : String} (accepted : refusal (family.artifactPath directory) family.artifact = none)
    (left : (family.renew directory spare stands).2 = some (.link target)) : spare = 0 := by
  rw [renew_of_accepted accepted] at left
  rcases stands with _ | _ | bytes | target' | _ <;> try cases left
  by_cases followed : spare = 0
  · exact followed
  · rw [if_neg followed] at left; cases left

namespace FileSystem

variable {fs fs' : FileSystem} {directory : String} {inside : Location} {family : Family} {spare : Nat}

/-- A link at the artifact's name, if the name is not refused anyway, leads straight to the device. -/
def Straight (fs : FileSystem) (directory : String) (inside : Location) (family : Family) : Prop :=
  refusal (family.artifactPath directory) family.artifact = none →
    ∀ target, fs.lookup (inside ++ [family.artifact]) = some (.link target) →
      ∃ device, fs.NamesDevice inside target device

/-- **Generating leaves every way into a directory open.**  Only what nothing can be entered through is renewed. -/
theorem samePassages_renew (straight : fs.Straight directory inside family) (spare : Nat) :
    SamePassages fs (fs.set (inside ++ [family.artifact])
      (family.renew directory spare (fs.lookup (inside ++ [family.artifact]))).2) where
  here := here_set ..
  kept location passable := by
    rw [lookup_set _ _ _ below_root]
    by_cases renewed : location = inside ++ [family.artifact]
    · subst renewed
      rw [if_pos rfl]
      cases refusing : refusal (family.artifactPath directory) family.artifact with
      | some error => rw [Family.renew_of_refused refusing]
      | none =>
        rcases stands : fs.lookup (inside ++ [family.artifact]) with _ | _ | bytes | target | _
        · exact absurd (.inl stands) passable
        · rw [Family.renew_of_accepted refusing]
        · exact absurd (.inr (.inl ⟨bytes, stands⟩)) passable
        · obtain ⟨device, names⟩ := straight refusing target stands
          have parent : (inside ++ [family.artifact]).dropLast = inside := List.dropLast_concat
          exact absurd (.inr (.inr (.inr ⟨target, device, stands, parent.symm ▸ names⟩))) passable
        · exact absurd (.inr (.inr (.inl stands))) passable
    · rw [if_neg renewed]

/-- **What a family left at its name decides what its path leads to**, whatever else has changed. -/
theorem locate?_renewed (opens : fs.Opens directory spare inside) (opens' : fs'.Opens directory spare inside)
    {stands : Option Entry}
    (left : fs.lookup (inside ++ [family.artifact]) = (family.renew directory spare stands).2)
    (left' : fs'.lookup (inside ++ [family.artifact]) = (family.renew directory spare stands).2) (purpose : Purpose) :
    fs.locate? purpose (family.artifactPath directory) = fs'.locate? purpose (family.artifactPath directory) := by
  have isName := family.artifact_name
  cases refusing : refusal (family.artifactPath directory) family.artifact with
  | some error =>
    exact (locate?_of_refused opens isName refusing purpose).trans
      (locate?_of_refused opens' isName refusing purpose).symm
  | none =>
    have same : fs.placeAt inside family.artifact = fs'.placeAt inside family.artifact := by
      rw [placeAt, placeAt, left, left']
    by_cases followed : purpose ≠ .inspect ∧ ∃ target, (family.renew directory spare stands).2 = some (.link target)
    · obtain ⟨follows, target, isLink⟩ := followed
      obtain rfl := Family.spare_of_renew_link refusing isLink
      exact (locate?_of_link opens isName refusing (left.trans isLink) follows).trans
        (locate?_of_link opens' isName refusing (left'.trans isLink) follows).symm
    · have stops : purpose = .inspect ∨ ∀ target, (family.renew directory spare stands).2 ≠ some (.link target) := by
        by_cases looks : purpose = .inspect
        · exact .inl looks
        · exact .inr fun target isLink => followed ⟨looks, target, isLink⟩
      have located := locate?_of_accepted opens isName refusing (left.symm ▸ stops)
      have located' := locate?_of_accepted opens' isName refusing (left'.symm ▸ stops)
      exact located.trans ((congrArg _ same).trans located'.symm)

end FileSystem

namespace Workspace

variable {directory : String} {family : Family} {workspace : Workspace} {spare : Nat} {inside : Location}

/-- **Generating an artifact renews an entry**: it gives the answer, and leaves the entry at a location. -/
structure Renews (directory : String) (family : Family) (workspace : Workspace) (location : Location)
    (renewed : Except Failure Nat × Option Entry) : Prop where
  answer : (workspace.generate directory family).1 = renewed.1
  files : (workspace.generate directory family).2.files = workspace.files.set location renewed.2

section

variable {location : Location}

theorem renews_of_refused {error : FileError} {entry : Option Entry} (below : location ≠ [])
    (stands : workspace.files.lookup location = entry)
    (refused : workspace.files.create (family.artifactPath directory) = .error error) :
    Renews directory family workspace location (.error (.file (family.artifactPath directory) error), entry) := by
  obtain ⟨answer, files⟩ := generate_of_refused refused
  exact ⟨answer, by rw [files, ← stands, set_lookup _ below]⟩

theorem renews_of_regular (opened : workspace.files.create (family.artifactPath directory) =
      .ok (.regular location .empty, workspace.files.put location (.file .empty))) :
    Renews directory family workspace location (.ok family.count, some (.file family.render.toByteArray)) := by
  obtain ⟨answer, files⟩ := generate_of_regular opened
  exact ⟨answer, by rw [files, put_put]; rfl⟩

theorem renews_of_fullDevice
    (opened : workspace.files.create (family.artifactPath directory) = .ok (.fullDevice, workspace.files))
    (unlinked : workspace.files.unlink (family.artifactPath directory) = .ok (workspace.files.erase location)) :
    Renews directory family workspace location
      (.error (.file (family.artifactPath directory) .deviceFull), none) := by
  obtain ⟨answer, files⟩ := generate_of_fullDevice opened unlinked
  exact ⟨answer, files⟩

end

/-- **Where the directory can be entered, generating an artifact renews what stands at its name.** -/
theorem generate_of_opens (opens : workspace.files.Opens directory spare inside)
    (straight : workspace.files.Straight directory inside family) :
    Renews directory family workspace (inside ++ [family.artifact])
      (family.renew directory spare (workspace.files.lookup (inside ++ [family.artifact]))) := by
  have isName := family.artifact_name
  cases refusing : refusal (family.artifactPath directory) family.artifact with
  | some error =>
    have located : workspace.files.locate? .create (family.artifactPath directory) = .error error :=
      locate?_of_refused opens isName refusing .create
    rw [Family.renew_of_refused refusing]
    exact renews_of_refused below_root rfl (by rw [create, located])
  | none =>
    -- Unless a link stands at the name, the path leads there whatever it is followed for.
    have located {entry : Option Entry} (stands : workspace.files.lookup (inside ++ [family.artifact]) = entry)
        (unlinked : ∀ target, entry ≠ some (.link target)) (purpose : Purpose) :
        workspace.files.locate? purpose (family.artifactPath directory) =
          .ok (.standing inside family.artifact entry) := by
      subst stands
      exact locate?_of_accepted opens isName refusing (.inr unlinked)
    rw [Family.renew_of_accepted refusing]
    rcases stands : workspace.files.lookup (inside ++ [family.artifact]) with _ | _ | bytes | target | _
    · exact renews_of_regular (by rw [create, located stands (by simp)]; rfl)
    · exact renews_of_refused below_root stands (by rw [create, located stands (by simp)]; rfl)
    · exact renews_of_regular (by rw [create, located stands (by simp)]; rfl)
    · obtain ⟨device, names⟩ := straight refusing target stands
      have followed : workspace.files.locate? .create (family.artifactPath directory) =
          workspace.files.followLink .create spare inside target [] :=
        locate?_of_link opens isName refusing stands (by simp)
      have looked : workspace.files.locate? .inspect (family.artifactPath directory) =
          .ok (.standing inside family.artifact (some (.link target))) :=
        stands ▸ locate?_of_accepted opens isName refusing (.inl rfl)
      cases spare with
      | zero => exact renews_of_refused below_root stands (by rw [create, followed]; rfl)
      | succ spare =>
        exact renews_of_fullDevice (by rw [create, followed, names.followLink]) (by rw [unlink, looked]; rfl)
    · have located := located stands (by simp)
      exact renews_of_fullDevice (by rw [create, located]; rfl) (by rw [unlink, located]; rfl)

/-- **Where the directory cannot be entered, nothing is generated**, and nothing changes. -/
theorem generate_of_closed (closed : workspace.files.Closed directory) :
    (∃ failure, (workspace.generate directory family).1 = .error failure) ∧
      (workspace.generate directory family).2.files = workspace.files := by
  cases located : workspace.files.locate? .create (family.artifactPath directory) with
  | ok place =>
    obtain ⟨spare, inside, opens⟩ := opens_of_locate?_join family.artifact_name located
    exact absurd opens (closed spare inside)
  | error error =>
    obtain ⟨answer, files⟩ := generate_of_refused (by rw [create, located])
    exact ⟨⟨_, answer⟩, files⟩

end Workspace

end DispatchChain
