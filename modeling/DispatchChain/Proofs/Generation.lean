import DispatchChain.FileSystem.Editing
import DispatchChain.Proofs.Arrival
import DispatchChain.Proofs.Buffering
import DispatchChain.Workspace
/-!
# Generation — what generating an artifact does to the files

Generating ends in one of four ways (`Workspace.generated`): the artifact cannot be created and nothing
changes, it is written whole, or it is on the full device and what stands at its path, a link to the device
or the device itself, is removed.  So where it succeeds, the artifact is up to date and generating it again
changes nothing (`Workspace.generate_settles`).
-/
namespace DispatchChain

theorem below_root {parent : Location} {name : String} : parent ++ [name] ≠ [] :=
  List.append_ne_nil_of_right_ne_nil parent (List.cons_ne_nil name [])

theorem bytes_beq_iff {bytes other : ByteArray} : (bytes == other) = true ↔ bytes = other := by
  rw [ByteArray.ext_iff]
  exact beq_iff_eq (a := bytes.data)

namespace FileSystem

variable {fs : FileSystem} {path : String} {parent : Location} {name : String}

theorem put_put (fs : FileSystem) (location : Location) (first last : Entry) :
    (fs.put location first).put location last = fs.put location last := by
  unfold put
  congr 1
  apply Std.ExtTreeMap.ext_getElem?
  intro other
  rw [Std.ExtTreeMap.getElem?_insert, Std.ExtTreeMap.getElem?_insert, Std.ExtTreeMap.getElem?_insert]
  split <;> rfl

/-- The files once an artifact was written, or could not be, at a path. -/
def afterWriting (fs : FileSystem) (path : String) : Except FileError Unit → FileSystem
  | .ok () => fs
  | .error _ =>
    match fs.unlink path with
    | .ok fs => fs
    | .error _ => fs

/-- **Erasing an entry changes no other.** -/
theorem lookup_erase_iff {location other : Location} {gone entry : Entry} (stood : fs.lookup location = some gone)
    (below : location ≠ []) (apart : entry ≠ gone) :
    (fs.erase location).lookup other = some entry ↔ fs.lookup other = some entry := by
  rw [lookup_erase fs other below]
  by_cases same : other = location
  · rw [if_pos same, same, stood]
    constructor
    · rintro ⟨⟩
    · rintro ⟨⟩
      exact absurd rfl apart
  · rw [if_neg same]

/-- Nothing stands at a location, or a file. -/
def Writable (fs : FileSystem) (location : Location) : Prop :=
  fs.lookup location = none ∨ ∃ bytes, fs.lookup location = some (.file bytes)

theorem lookup_put_of_writable {location other : Location} {entry : Entry} (writable : fs.Writable location)
    (below : location ≠ []) (bytes : ByteArray) (stands : fs.lookup other = some entry)
    (notFile : ∀ bytes, entry ≠ .file bytes) : (fs.put location (.file bytes)).lookup other = some entry := by
  have apart : other ≠ location := by
    rintro rfl
    rcases writable with vacant | ⟨old, isFile⟩
    · rw [vacant] at stands; cases stands
    · rw [isFile] at stands; cases stands
      exact notFile old rfl
  rw [lookup_put fs _ other below, if_neg apart, stands]

/-- **Writing a file leaves every way open.** -/
theorem waysIn_put {location : Location} (writable : fs.Writable location) (below : location ≠ [])
    (bytes : ByteArray) : WaysIn fs (fs.put location (.file bytes)) where
  here := rfl
  directory _ isDirectory := lookup_put_of_writable writable below bytes isDirectory (by simp)
  link _ _ isLink := lookup_put_of_writable writable below bytes isLink (by simp)
  fullDevice _ device := lookup_put_of_writable writable below bytes device (by simp)

theorem LeadsTo.put (leads : fs.LeadsTo .create path parent name) (writable : fs.Writable (parent ++ [name]))
    (bytes : ByteArray) : (fs.put (parent ++ [name]) (.file bytes)).LeadsTo .create path parent name :=
  leads.mono (waysIn_put writable below_root bytes)

/-- **A file that was written is where its path leads.** -/
theorem locate?_put (leads : fs.LeadsTo .create path parent name) (writable : fs.Writable (parent ++ [name]))
    (bytes : ByteArray) :
    (fs.put (parent ++ [name]) (.file bytes)).locate? .openExisting path = .ok (.file (parent ++ [name]) bytes) := by
  have stands : (fs.put (parent ++ [name]) (.file bytes)).lookup (parent ++ [name]) = some (.file bytes) := by
    rw [lookup_put fs _ _ below_root, if_pos rfl]
  exact locate?_of_leadsTo ((leads.put writable bytes).through (by simp)) stands (.inr (by simp))

theorem create_of_writable (leads : fs.LeadsTo .create path parent name) (writable : fs.Writable (parent ++ [name])) :
    fs.create path = .ok (.regular (parent ++ [name]) .empty, fs.put (parent ++ [name]) (.file .empty)) := by
  rcases writable with vacant | ⟨bytes, isFile⟩
  · rw [create, locate?_of_leadsTo leads vacant (.inr (by simp)), Place.standing]
  · rw [create, locate?_of_leadsTo leads isFile (.inr (by simp)), Place.standing]

/-- **Opening a file to write it succeeds in two ways**: it is emptied or created, or it is the device. -/
theorem create_cases {opened : OpenFile × FileSystem} (h : fs.create path = .ok opened) :
    ∃ parent name, fs.LeadsTo .create path parent name ∧
      (fs.Writable (parent ++ [name]) ∨
        fs.lookup (parent ++ [name]) = some .fullDevice ∧ opened = (.fullDevice, fs)) := by
  rw [create] at h
  cases located : fs.locate? .create path with
  | error error => rw [located] at h; cases h
  | ok place =>
    have elsewhere : ∀ at_, place ≠ .directory at_ := by
      rintro at_ rfl
      rw [located] at h; cases h
    obtain ⟨parent, name, leads, there⟩ := leadsTo_of_locate? located elsewhere (.inl rfl)
    refine ⟨parent, name, leads, ?_⟩
    subst there
    rw [located, placeAt] at h
    cases found : fs.lookup (parent ++ [name]) with
    | none => exact .inl (.inl found)
    | some entry =>
      cases entry with
      | file bytes => exact .inl (.inr ⟨bytes, found⟩)
      | fullDevice =>
        rw [found] at h; cases h
        exact .inr ⟨rfl, rfl⟩
      | directory => rw [found] at h; cases h
      | link target => rw [found] at h; cases h

/-- **What is opened as the device stands there itself, or leads there through a link.** -/
theorem inspect_of_leadsTo_fullDevice (leads : fs.LeadsTo .create path parent name)
    (device : fs.lookup (parent ++ [name]) = some .fullDevice) :
    fs.locate? .openExisting path = .ok (.fullDevice (parent ++ [name])) ∧
      ((∃ location, fs.locate? .inspect path = .ok (.fullDevice location)) ∨
        ∃ location target, fs.locate? .inspect path = .ok (.link location target)) := by
  refine ⟨locate?_of_leadsTo (leads.through (by simp)) device (.inr (by simp)), ?_⟩
  rcases leads.inspect with looked | ⟨parent', name', target, looked, isLink⟩
  · exact .inl ⟨parent ++ [name], locate?_of_leadsTo looked device (.inl rfl)⟩
  · exact .inr ⟨parent' ++ [name'], target, locate?_of_leadsTo looked isLink (.inl rfl)⟩

end FileSystem

/-- **How generating an artifact ends**: what is answered, and the files that it leaves. -/
inductive Generated (path : String) (family : Family) (before : FileSystem) : Except Failure Nat → FileSystem → Prop
  | refused {error : FileError} : before.create path = .error error →
      Generated path family before (.error (.file path error)) before
  | written {parent : Location} {name : String} : before.LeadsTo .create path parent name →
      before.Writable (parent ++ [name]) →
      Generated path family before (.ok family.count)
        (before.put (parent ++ [name]) (.file family.render.toByteArray))
  | unlinked {location device : Location} {target : String} :
      before.locate? .openExisting path = .ok (.fullDevice device) →
      before.locate? .inspect path = .ok (.link location target) →
      Generated path family before (.error (.file path .deviceFull)) (before.erase location)
  | removed {device : Location} : before.locate? .inspect path = .ok (.fullDevice device) →
      Generated path family before (.error (.file path .deviceFull)) (before.erase device)

namespace Workspace

open FileSystem

variable {directory : String} {family : Family} {workspace : Workspace}

theorem generate_of_refused {error : FileError}
    (refused : workspace.files.create (family.artifactPath directory) = .error error) :
    (workspace.generate directory family).1 = .error (.file (family.artifactPath directory) error) ∧
      (workspace.generate directory family).2.files = workspace.files := by
  unfold generate
  simp only [note]
  rw [refused]
  exact ⟨rfl, rfl⟩

/-- **Once its file is open, generating an artifact writes the pieces of the chain to it**, and removes what stands
at the path if that fails. -/
theorem generate_of_create {file : OpenFile} {files : FileSystem} {result : Except FileError Unit}
    {written : BufferedFile}
    (opened : workspace.files.create (family.artifactPath directory) = .ok (file, files))
    (flushed : Sink.writeFlush (Family.linePieces family.lines) (BufferedFile.ofFile file) = (result, written)) :
    (workspace.generate directory family).1 =
        (result.map fun () => family.count).mapError (.file (family.artifactPath directory)) ∧
      (workspace.generate directory family).2.files =
        (files.store written.file).afterWriting (family.artifactPath directory) result := by
  unfold generate
  simp only [note]
  rw [opened]
  simp only
  generalize workspace.log.note _ _ = log
  have wrote := Family.writeChain_eq_writeFlush family log (BufferedFile.ofFile file)
  rw [flushed] at wrote
  revert wrote
  rcases family.writeChain log (BufferedFile.ofFile file) with ⟨answer, log', written'⟩
  rintro ⟨answered, sank⟩
  simp only at answered sank
  subst answered sank
  cases result with
  | ok _ => exact ⟨rfl, rfl⟩
  | error error =>
    refine ⟨rfl, ?_⟩
    simp only [Except.map, discard, FileSystem.afterWriting]
    cases (files.store written'.file).unlink (family.artifactPath directory) <;> rfl

theorem generate_of_regular {location : Location} {files : FileSystem}
    (opened : workspace.files.create (family.artifactPath directory) = .ok (.regular location .empty, files)) :
    (workspace.generate directory family).1 = .ok family.count ∧
      (workspace.generate directory family).2.files = files.put location (.file family.render.toByteArray) :=
  generate_of_create opened (family.writeFlush_regular location)

theorem generate_of_fullDevice {files : FileSystem}
    (opened : workspace.files.create (family.artifactPath directory) = .ok (.fullDevice, workspace.files))
    (unlinked : workspace.files.unlink (family.artifactPath directory) = .ok files) :
    (workspace.generate directory family).1 = .error (.file (family.artifactPath directory) .deviceFull) ∧
      (workspace.generate directory family).2.files = files := by
  obtain ⟨held, failed⟩ := family.writeFlush_fullDevice
  obtain ⟨answer, left⟩ := generate_of_create opened failed
  simp only [FileSystem.store, FileSystem.afterWriting, unlinked] at left
  exact ⟨answer, left⟩

/-- **What generating answers, and the files that it leaves, depend on the files only**, and not on the log. -/
theorem generate_congr {other : Workspace} (same : other.files = workspace.files) :
    (other.generate directory family).1 = (workspace.generate directory family).1 ∧
      (other.generate directory family).2.files = (workspace.generate directory family).2.files := by
  cases opened : workspace.files.create (family.artifactPath directory) with
  | error error =>
    obtain ⟨answer, files⟩ := generate_of_refused opened
    obtain ⟨answer', files'⟩ := generate_of_refused (same ▸ opened)
    exact ⟨answer'.trans answer.symm, files'.trans (same.trans files.symm)⟩
  | ok opening =>
    obtain ⟨answer, files⟩ := generate_of_create opened rfl
    obtain ⟨answer', files'⟩ := generate_of_create (same ▸ opened) rfl
    exact ⟨answer'.trans answer.symm, files'.trans files.symm⟩

theorem generated (directory : String) (family : Family) (workspace : Workspace) :
    Generated (family.artifactPath directory) family workspace.files
      (workspace.generate directory family).1 (workspace.generate directory family).2.files := by
  cases opened : workspace.files.create (family.artifactPath directory) with
  | error error =>
    obtain ⟨answer, files⟩ := generate_of_refused opened
    rw [answer, files]
    exact .refused opened
  | ok file =>
    obtain ⟨parent, name, leads, writable | ⟨device, rfl⟩⟩ := create_cases opened
    · obtain ⟨answer, files⟩ := generate_of_regular (create_of_writable leads writable)
      rw [answer, files, put_put]
      exact .written leads writable
    · obtain ⟨leadsOn, ⟨location, looked⟩ | ⟨location, target, looked⟩⟩ :=
        inspect_of_leadsTo_fullDevice leads device
      · obtain ⟨answer, files⟩ := generate_of_fullDevice opened (by rw [unlink, looked])
        rw [answer, files]
        exact .removed looked
      · obtain ⟨answer, files⟩ := generate_of_fullDevice opened (by rw [unlink, looked])
        rw [answer, files]
        exact .unlinked leadsOn looked

theorem files_of_generate {clauses : Nat} (succeeds : (workspace.generate directory family).1 = .ok clauses) :
    ∃ parent name, workspace.files.LeadsTo .create (family.artifactPath directory) parent name ∧
      workspace.files.Writable (parent ++ [name]) ∧ clauses = family.count ∧
      (workspace.generate directory family).2.files =
        workspace.files.put (parent ++ [name]) (.file family.render.toByteArray) := by
  have step := generated directory family workspace
  rw [succeeds] at step
  generalize (workspace.generate directory family).2.files = files at step ⊢
  cases step with
  | written leads writable => exact ⟨_, _, leads, writable, rfl, rfl⟩

@[simp] theorem files_check (directory : String) (family : Family) (workspace : Workspace) :
    (workspace.check directory family).2.files = workspace.files := by
  unfold check
  simp only
  cases workspace.files.read (family.artifactPath directory) with
  | ok bytes => rfl
  | error error => cases error <;> rfl

/-- **A check compares what can be read with the chain**; a missing artifact is out of date. -/
theorem check_fst (directory : String) (family : Family) (workspace : Workspace) :
    (workspace.check directory family).1 =
      match workspace.files.read (family.artifactPath directory) with
      | .error .notFound => .ok false
      | .error error => .error (.file (family.artifactPath directory) error)
      | .ok bytes => .ok (bytes == family.render.toByteArray) := by
  unfold check
  simp only
  cases workspace.files.read (family.artifactPath directory) with
  | ok bytes => simp only [Family.renderLogged_fst, ← Family.render_eq_join]
  | error error => cases error <;> rfl

theorem check_of_read {bytes : ByteArray} (read : workspace.files.read (family.artifactPath directory) = .ok bytes) :
    (workspace.check directory family).1 = .ok (bytes == family.render.toByteArray) := by
  rw [check_fst, read]

theorem read_of_generate {clauses : Nat} (succeeds : (workspace.generate directory family).1 = .ok clauses) :
    (workspace.generate directory family).2.files.read (family.artifactPath directory) =
      .ok family.render.toByteArray := by
  obtain ⟨parent, name, leads, writable, -, files⟩ := files_of_generate succeeds
  rw [files, FileSystem.read, locate?_put leads writable]

/-- **What was generated is up to date, and generating it again changes nothing.**  The artifact holds the
chain of its family, whatever stood there before, and only the file that its path leads to has changed. -/
theorem generate_settles (directory : String) (family : Family) (workspace : Workspace) {clauses : Nat}
    (succeeds : (workspace.generate directory family).1 = .ok clauses) :
    let path := family.artifactPath directory
    let after := (workspace.generate directory family).2
    clauses = family.count ∧
    after.files.read path = .ok family.render.toByteArray ∧
    (∃ location, after.files.locate? .openExisting path = .ok (.file location family.render.toByteArray) ∧
      workspace.files.Writable location ∧ after.files.here = workspace.files.here ∧
      ∀ other, other ≠ location → after.files.lookup other = workspace.files.lookup other) ∧
    (after.check directory family).1 = .ok true ∧ (after.check directory family).2.files = after.files ∧
    (after.generate directory family).1 = .ok clauses ∧ (after.generate directory family).2.files = after.files := by
  intro path after
  obtain ⟨parent, name, leads, writable, rfl, files⟩ := files_of_generate succeeds
  have located : after.files.locate? .openExisting path =
      .ok (.file (parent ++ [name]) family.render.toByteArray) := by
    rw [files]; exact locate?_put leads writable _
  have read : after.files.read path = .ok family.render.toByteArray := read_of_generate succeeds
  have fresh : (after.check directory family).1 = .ok true := by
    rw [check_of_read read, bytes_beq_iff.2 rfl]
  -- The path leads to the same place as before, where there is a file now in any case.
  have leads_after : after.files.LeadsTo .create path parent name := by
    rw [files]; exact leads.put writable _
  have writable_after : after.files.Writable (parent ++ [name]) := by
    rw [files]; exact .inr ⟨_, by rw [lookup_put _ _ _ below_root, if_pos rfl]⟩
  obtain ⟨again, files_again⟩ := generate_of_regular (create_of_writable leads_after writable_after)
  refine ⟨rfl, read, ⟨parent ++ [name], located, writable, ?_, ?_⟩, fresh, files_check .., again, ?_⟩
  · rw [files]; rfl
  · intro other apart
    rw [files, lookup_put _ _ _ below_root, if_neg apart]
  · rw [files_again, put_put, files, put_put]

end Workspace

/-- A workspace in which the artifact of the swap instructions is a link. -/
def Workspace.linked (target : String) : Workspace :=
  ⟨FileSystem.scratch.put ["scratch", "SWP_INSTR.gencpp"] (.link target), .empty none⟩

/-- A dangling link is written through, and what it names is up to date from then on. -/
theorem Workspace.dangling_settles :
    ((Workspace.linked "made").generate "" .swap).1 = .ok 2 ∧
      ((Workspace.linked "made").generate "" .swap).2.files.read "SWP_INSTR.gencpp" =
        .ok Family.swap.render.toByteArray ∧
      (((Workspace.linked "made").generate "" .swap).2.check "" .swap).1 = .ok true :=
  have succeeds : ((Workspace.linked "made").generate "" .swap).1 = .ok 2 := by decide +kernel
  have settled := generate_settles "" .swap (Workspace.linked "made") succeeds
  ⟨succeeds, settled.2.1, settled.2.2.2.1⟩

end DispatchChain
