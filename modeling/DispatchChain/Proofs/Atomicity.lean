import DispatchChain.Proofs.Generation
/-!
# Atomicity — what a generation that fails leaves

A generation fails in one of two ways (`Workspace.generate_fails_whole`).  If the artifact cannot be opened, nothing
has changed.  If it is on the full device, what stands at its path is gone and nothing else.  The device is noticed
whatever the length of the chain, since all that is held back is passed on in the end.
-/
namespace DispatchChain

namespace FileSystem

variable {fs : FileSystem} {path : String} {location device : Location}

/-- What is opened at a path is the full device, and at the path itself stands a link that leads there, or the
device. -/
inductive OnDevice (fs : FileSystem) (path : String) : Location → Prop
  | link {location device : Location} {target : String} :
      fs.locate? .openExisting path = .ok (.fullDevice device) →
      fs.locate? .inspect path = .ok (.link location target) → OnDevice fs path location
  | device {location : Location} : fs.locate? .openExisting path = .ok (.fullDevice location) →
      fs.locate? .inspect path = .ok (.fullDevice location) → OnDevice fs path location

theorem create_of_fullDevice (located : fs.locate? .openExisting path = .ok (.fullDevice device)) :
    fs.create path = .ok (.fullDevice, fs) := by
  rw [create, locate?_fullDevice_through (by simp) located]

theorem OnDevice.stands (on : fs.OnDevice path location) :
    fs.lookup location = some .fullDevice ∨ ∃ target, fs.lookup location = some (.link target) := by
  cases on with
  | link _ looked => exact .inr ⟨_, lookup_of_locate?_link looked⟩
  | device _ looked =>
    obtain ⟨parent, name, _, rfl, stood⟩ := leadsTo_of_locate?_fullDevice looked
    exact .inl stood

/-- **Erasing what stands for the device leaves every directory and every file.** -/
theorem OnDevice.lookup_erase (on : fs.OnDevice path location) {other : Location} {entry : Entry}
    (kept : entry = .directory ∨ ∃ bytes, entry = .file bytes) :
    (fs.erase location).lookup other = some entry ↔ fs.lookup other = some entry := by
  have below : location ≠ [] := by
    rintro rfl
    rcases on.stands with stood | ⟨_, stood⟩ <;> cases stood
  rcases on.stands with stood | ⟨target, stood⟩
  · refine lookup_erase_iff stood below ?_
    rcases kept with rfl | ⟨bytes, rfl⟩ <;> simp
  · refine lookup_erase_iff stood below ?_
    rcases kept with rfl | ⟨bytes, rfl⟩ <;> simp

end FileSystem

namespace Workspace

open FileSystem

/-- **A generation that fails is not noticed in the files**, but for the entry of an artifact on the full device.  It
answers the path and why it failed.  Either the artifact could not be opened, and nothing has changed, or it is on
the full device, and the link at its path is gone, or the device, if that stands at the path itself.  No directory and
no file is touched.  And whenever the path leads to the full device, the generation fails for this reason and removes
the link or the device, however long or short the chain. -/
theorem generate_fails_whole (directory : String) (family : Family) (workspace : Workspace) :
    let path := family.artifactPath directory
    let before := workspace.files
    let answer := (workspace.generate directory family).1
    let after := (workspace.generate directory family).2.files
    (∀ failure, answer = .error failure →
      (∃ error, failure = .file path error ∧
        (before.create path = .error error ∧ after = before ∨
          error = .deviceFull ∧ ∃ location, before.OnDevice path location ∧ after = before.erase location)) ∧
      ∀ location entry, (entry = .directory ∨ ∃ bytes, entry = .file bytes) →
        (after.lookup location = some entry ↔ before.lookup location = some entry)) ∧
    (∀ device, before.locate? .openExisting path = .ok (.fullDevice device) →
      answer = .error (.file path .deviceFull) ∧
        ∃ location, before.OnDevice path location ∧ after = before.erase location) := by
  intro path before answer after
  have step : Generated path family before answer after := generated directory family workspace
  clear_value answer after
  constructor
  · rintro failure rfl
    cases step with
    | @refused error refused => exact ⟨⟨error, rfl, .inl ⟨refused, rfl⟩⟩, fun _ _ _ => Iff.rfl⟩
    | unlinked leads looked =>
      have on : before.OnDevice path _ := .link leads looked
      exact ⟨⟨_, rfl, .inr ⟨rfl, _, on, rfl⟩⟩, fun _ _ kept => on.lookup_erase kept⟩
    | removed looked =>
      have on : before.OnDevice path _ := .device (locate?_fullDevice_through (by simp) looked) looked
      exact ⟨⟨_, rfl, .inr ⟨rfl, _, on, rfl⟩⟩, fun _ _ kept => on.lookup_erase kept⟩
  · intro device located
    have opened : before.create path = .ok (.fullDevice, before) := create_of_fullDevice located
    cases step with
    | refused refused =>
      rw [opened] at refused; cases refused
    | written leads writable =>
      rw [create_of_writable leads writable] at opened; cases opened
    | unlinked leads looked => exact ⟨rfl, _, .link leads looked, rfl⟩
    | removed looked => exact ⟨rfl, _, .device (locate?_fullDevice_through (by simp) looked) looked, rfl⟩

/-- A chain that the buffer could hold fails too, and the link to the device is removed. -/
theorem short_chain_fails_whole :
    Family.swap.render.utf8ByteSize < BufferedFile.capacity ∧
      ((Workspace.linked "/dev/full").generate "" .swap).1 = .error (.file "SWP_INSTR.gencpp" .deviceFull) ∧
      ∃ location, (Workspace.linked "/dev/full").files.OnDevice "SWP_INSTR.gencpp" location ∧
        ((Workspace.linked "/dev/full").generate "" .swap).2.files =
          (Workspace.linked "/dev/full").files.erase location :=
  ⟨by decide +kernel, (generate_fails_whole "" .swap (Workspace.linked "/dev/full")).2 ["dev", "full"] (by rfl)⟩

end Workspace

end DispatchChain
