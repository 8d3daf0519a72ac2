import DispatchChain.Proofs.Generation
/-!
# Intact — what generating leaves of a file system

Where an artifact is generated, a file has the bytes that it had, or those of a whole chain.  Nothing else comes
or goes, except that a link is removed where the writing through it failed, because it leads to the full device
(`Workspace.generate_intact`).  What keeps a file system so can be done one after another (`Intact.trans`).
-/
namespace DispatchChain

/-- **What is left of a file system**, if at most the artifacts of some families were written, and if some
could not be.  A removed link stood at the path of an artifact that could not be written, and leads to the
device. -/
structure Intact (directory : String) (before after : FileSystem) (written failed : Family → Prop) : Prop where
  here : after.here = before.here
  directories : ∀ location, after.lookup location = some .directory ↔ before.lookup location = some .directory
  devices : ∀ location, after.lookup location = some .fullDevice ↔ before.lookup location = some .fullDevice
  files : ∀ location bytes, after.lookup location = some (.file bytes) →
    before.lookup location = some (.file bytes) ∨ ∃ family, written family ∧ bytes = family.render.toByteArray
  files_kept : ∀ location bytes, before.lookup location = some (.file bytes) →
    ∃ bytes', after.lookup location = some (.file bytes')
  links : ∀ location target, after.lookup location = some (.link target) →
    before.lookup location = some (.link target)
  links_kept : ∀ location target, before.lookup location = some (.link target) →
    after.lookup location = some (.link target) ∨
    ∃ family device, failed family ∧
      before.locate? .inspect (family.artifactPath directory) = .ok (.link location target) ∧
      before.locate? .openExisting (family.artifactPath directory) = .ok (.fullDevice device)

namespace Intact

open FileSystem

variable {directory : String} {before mid after fs : FileSystem} {written written' failed failed' : Family → Prop}

theorem refl : Intact directory fs fs written failed where
  here := rfl
  directories _ := Iff.rfl
  devices _ := Iff.rfl
  files _ _ isFile := .inl isFile
  files_kept _ bytes isFile := ⟨bytes, isFile⟩
  links _ _ isLink := isLink
  links_kept _ _ isLink := .inl isLink

theorem mono (intact : Intact directory before after written failed)
    (more_written : ∀ family, written family → written' family)
    (more_failed : ∀ family, failed family → failed' family) :
    Intact directory before after written' failed' :=
  { intact with
    files := fun location bytes isFile =>
      (intact.files location bytes isFile).imp_right fun ⟨family, wrote, eq⟩ =>
        ⟨family, more_written family wrote, eq⟩
    links_kept := fun location target isLink =>
      (intact.links_kept location target isLink).imp_right fun ⟨family, device, fails, looked, leads⟩ =>
        ⟨family, device, more_failed family fails, looked, leads⟩ }

theorem waysBack (intact : Intact directory before after written failed) : WaysIn after before where
  here := intact.here.symm
  directory location := (intact.directories location).1
  link := intact.links
  fullDevice location := (intact.devices location).1

/-- **What keeps a file system intact can be done one after another.** -/
theorem trans (first : Intact directory before mid written failed)
    (second : Intact directory mid after written failed) : Intact directory before after written failed where
  here := second.here.trans first.here
  directories location := (second.directories location).trans (first.directories location)
  devices location := (second.devices location).trans (first.devices location)
  files location bytes isFile := by
    rcases second.files location bytes isFile with earlier | wrote
    · exact first.files location bytes earlier
    · exact .inr wrote
  files_kept location bytes isFile := by
    obtain ⟨bytes', isFile'⟩ := first.files_kept location bytes isFile
    exact second.files_kept location bytes' isFile'
  links location target isLink := first.links location target (second.links location target isLink)
  links_kept location target isLink := by
    rcases first.links_kept location target isLink with isLink' | removed
    · rcases second.links_kept location target isLink' with isLink'' | ⟨family, device, fails, looked, leads⟩
      · exact .inl isLink''
      · -- The path took the same way before the first change.
        exact .inr ⟨family, device, fails, locate?_link_mono first.waysBack looked,
          locate?_fullDevice_mono first.waysBack leads⟩
    · exact .inr removed

/-- A file that is written where nothing stood, or a file. -/
theorem put {location : Location} {family : Family} (writable : fs.Writable location) (below : location ≠ [])
    (wrote : written family) :
    Intact directory fs (fs.put location (.file family.render.toByteArray)) written failed := by
  have elsewhere : ∀ {other : Location} {entry : Entry},
      (fs.put location (.file family.render.toByteArray)).lookup other = some entry →
      (∀ bytes, entry ≠ .file bytes) → fs.lookup other = some entry := by
    intro other entry stands notFile
    rw [lookup_put fs _ other below] at stands
    by_cases same : other = location
    · rw [if_pos same] at stands; cases stands
      exact absurd rfl (notFile _)
    · rwa [if_neg same] at stands
  have ways := waysIn_put writable below family.render.toByteArray
  exact {
    here := rfl
    directories := fun other => ⟨fun stands => elsewhere stands (by simp), ways.directory other⟩
    devices := fun other => ⟨fun stands => elsewhere stands (by simp), ways.fullDevice other⟩
    files := fun other bytes isFile => by
      rw [lookup_put fs _ other below] at isFile
      by_cases same : other = location
      · rw [if_pos same] at isFile; cases isFile
        exact .inr ⟨family, wrote, rfl⟩
      · rw [if_neg same] at isFile
        exact .inl isFile
    files_kept := fun other bytes isFile => by
      rw [lookup_put fs _ other below]
      by_cases same : other = location
      · exact ⟨_, if_pos same⟩
      · exact ⟨bytes, by rw [if_neg same, isFile]⟩
    links := fun _ _ stands => elsewhere stands (by simp)
    links_kept := fun other target stands => .inl (ways.link other target stands) }

/-- A link that is erased because an artifact cannot be written through it. -/
theorem erase {location device : Location} {target : String} {family : Family} (fails : failed family)
    (looked : fs.locate? .inspect (family.artifactPath directory) = .ok (.link location target))
    (leads : fs.locate? .openExisting (family.artifactPath directory) = .ok (.fullDevice device)) :
    Intact directory fs (fs.erase location) written failed := by
  have isLink := lookup_of_locate?_link looked
  have below : location ≠ [] := by
    rintro rfl
    cases isLink
  have kept : ∀ {other : Location} {entry : Entry}, entry ≠ .link target →
      ((fs.erase location).lookup other = some entry ↔ fs.lookup other = some entry) :=
    lookup_erase_iff isLink below
  exact {
    here := rfl
    directories := fun _ => kept (by simp)
    devices := fun _ => kept (by simp)
    files := fun _ _ isFile => .inl ((kept (by simp)).1 isFile)
    files_kept := fun _ bytes isFile => ⟨bytes, (kept (by simp)).2 isFile⟩
    links := fun other _ isLink' => by
      rw [lookup_erase fs other below] at isLink'
      by_cases same : other = location
      · rw [if_pos same] at isLink'; cases isLink'
      · rwa [if_neg same] at isLink'
    links_kept := fun other target' isLink' => by
      by_cases same : other = location
      · subst same
        rw [isLink] at isLink'; cases isLink'
        exact .inr ⟨family, device, fails, looked, leads⟩
      · exact .inl (by rw [lookup_erase fs other below, if_neg same, isLink']) }

end Intact

open FileSystem in
/-- **A generation leaves the files intact**, unless the device itself stands at the path of the artifact. -/
theorem Workspace.generate_intact {directory : String} {family : Family} {workspace : Workspace}
    {written failed : Family → Prop} (wrote : written family)
    (fails : (workspace.generate directory family).1 = .error (.file (family.artifactPath directory) .deviceFull) →
      failed family)
    (behindLinks : ∀ location,
      workspace.files.locate? .inspect (family.artifactPath directory) ≠ .ok (.fullDevice location)) :
    Intact directory workspace.files (workspace.generate directory family).2.files written failed := by
  have step := generated directory family workspace
  generalize (workspace.generate directory family).1 = answer at step fails
  generalize (workspace.generate directory family).2.files = files at step
  cases step with
  | refused _ => exact .refl
  | written leads writable => exact .put writable below_root wrote
  | unlinked leads looked => exact .erase (fails rfl) looked leads
  | removed looked => exact absurd looked (behindLinks _)

end DispatchChain
