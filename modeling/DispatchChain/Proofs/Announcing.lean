import DispatchChain.Proofs.Atomicity
import DispatchChain.Proofs.Blindness
import Mathlib.Data.Nat.Find
/-!
# Announcing — what the log of a generation tells

A generation notes that it begins, announces each clause before it writes it, and notes that the artifact is written
once nothing can fail any more (`Workspace.generate_announces`).  On the full device the clauses are held back as long
as the chain so far fits the buffer; so the last clause announced there is the one with which the chain outgrows it, or
the last of the chain, which then fails when it is flushed.
-/
namespace DispatchChain

namespace Family

variable {family : Family}

/-- The clause with which a chain outgrows the buffer: all before it fits, and it does not fit any more. -/
structure SpillsAt (family : Family) (index : Nat) : Prop where
  inside : index < family.count
  fits : ∀ earlier ≤ index, (family.renderFirst earlier).utf8ByteSize ≤ BufferedFile.capacity
  spills : BufferedFile.capacity < (family.renderFirst (index + 1)).utf8ByteSize

/-- **A chain longer than the buffer outgrows it with one of its clauses**, since the opening fits. -/
theorem exists_spillsAt (long : BufferedFile.capacity < family.render.utf8ByteSize) :
    ∃ index, family.SpillsAt index := by
  have outgrows : ∃ count, BufferedFile.capacity < (family.renderFirst count).utf8ByteSize :=
    ⟨family.count, by rw [renderFirst_count]; exact long⟩
  cases least : Nat.find outgrows with
  | zero =>
    have spills := Nat.find_spec outgrows
    rw [least, renderFirst_zero] at spills
    exact absurd spills (by decide +kernel)
  | succ index =>
    refine ⟨index, ?_, fun earlier le => ?_, ?_⟩
    · have least_le : Nat.find outgrows ≤ family.count := Nat.find_min' outgrows (by rw [renderFirst_count]; exact long)
      omega
    · exact Nat.not_lt.1 (Nat.find_min outgrows (by omega))
    · rw [← least]
      exact Nat.find_spec outgrows

/-- **As long as the chain so far fits the buffer, its clauses are announced and held back**, whatever the file: writing
more clauses goes on from there. -/
theorem writeEach_of_fits (family : Family) (file : OpenFile) : ∀ (first later : List Encoding) (before : String),
    (before ++ String.join (linePieces (first.map family.clauseText))).utf8ByteSize ≤ BufferedFile.capacity →
    ∀ (written : Nat) (log : Log),
      writeEach family (first ++ later) written log (⟨before.toByteArray, file⟩ : BufferedFile) =
        writeEach family later (written + first.length) (log.noteAll (family.announced first))
          ⟨(before ++ String.join (linePieces (first.map family.clauseText))).toByteArray, file⟩
  | [], later, before, _, written, log => by
    rw [show before ++ String.join (linePieces ([].map family.clauseText)) = before from String.append_empty]
    rfl
  | encoding :: first, later, before, fits, written, log => by
    rw [List.map_cons, join_linePieces_cons, ← String.append_assoc] at fits ⊢
    have line_fits : before.toByteArray.size + (family.clauseText encoding ++ "\n").utf8ByteSize ≤
        BufferedFile.capacity := by
      rw [String.utf8ByteSize_append, String.utf8ByteSize_append] at fits
      rw [String.size_toByteArray]
      exact Nat.le_of_add_right_le fits
    rw [List.cons_append, writeEach, BufferedFile.writeLine_of_fits line_fits, ← String.toByteArray_append,
      List.length_cons, Nat.add_comm first.length, ← Nat.add_assoc]
    exact writeEach_of_fits family file first later _ fits (written + 1) _

/-- Of a chain that goes behind a buffer, the first clauses are held back as long as they fit with the opening. -/
theorem log_writeChain_of_fits {count : Nat} (file : OpenFile)
    (fits : (family.renderFirst count).utf8ByteSize ≤ BufferedFile.capacity) (log : Log) :
    (writeChain family log (BufferedFile.ofFile file)).2.1 =
      (writeEach family ((Encoding.all family.fields).drop count) (min count family.count)
        (log.noteAll (family.announced ((Encoding.all family.fields).take count)))
        (⟨(family.renderFirst count).toByteArray, file⟩ : BufferedFile)).2.1 := by
  have opened : Sink.writeLine Clause.opening (BufferedFile.ofFile file) =
      (.ok (), ⟨(Clause.opening ++ "\n").toByteArray, file⟩) :=
    BufferedFile.writeLine_of_fits (show ByteArray.empty.size + _ ≤ _ by decide +kernel)
  rw [renderFirst_eq] at fits ⊢
  have held := writeEach_of_fits family file ((Encoding.all family.fields).take count)
    ((Encoding.all family.fields).drop count) _ fits 0 log
  rw [List.take_append_drop, List.length_take, length_all_fields, Nat.zero_add] at held
  rw [log_writeChain_of_opened opened, held]

/-- **A chain that fits the buffer is announced whole**, whatever the file: the full device is noticed at the flush. -/
theorem log_writeChain_of_render_fits (file : OpenFile) (fits : family.render.utf8ByteSize ≤ BufferedFile.capacity)
    (log : Log) : (writeChain family log (BufferedFile.ofFile file)).2.1 =
      log.noteAll (family.announced (Encoding.all family.fields)) := by
  have whole : (Encoding.all family.fields).length ≤ family.count := Nat.le_of_eq family.length_all_fields
  rw [← renderFirst_count] at fits
  rw [log_writeChain_of_fits file fits, List.drop_of_length_le whole, List.take_of_length_le whole]
  rfl

/-- **A chain that outgrows the buffer is announced on the full device as far as the clause that spills**, which is
announced before it is written. -/
theorem log_writeChain_of_spillsAt {index : Nat} (spillsAt : family.SpillsAt index) (log : Log) :
    (writeChain family log (BufferedFile.ofFile .fullDevice)).2.1 =
      log.noteAll (family.announced ((Encoding.all family.fields).take (index + 1))) := by
  have inside : index < (Encoding.all family.fields).length := by rw [length_all_fields]; exact spillsAt.inside
  have at_ : (Encoding.all family.fields)[index]? = some (Encoding.all family.fields)[index] :=
    List.getElem?_eq_getElem inside
  have some_held : (family.renderFirst index).toByteArray ≠ .empty := fun none_held =>
    family.renderFirst_ne_empty index (String.toByteArray_inj.1 none_held)
  have exceeds := spillsAt.spills
  rw [renderFirst_succ at_, String.utf8ByteSize_append, ← String.size_toByteArray] at exceeds
  obtain ⟨held, failed⟩ := BufferedFile.writeLine_fullDevice_of_lt some_held exceeds
  rw [log_writeChain_of_fits .fullDevice (spillsAt.fits index (Nat.le_refl index)), List.drop_eq_getElem_cons inside,
    writeEach, failed, List.take_add_one, at_, announced, announced, List.map_append, Log.noteAll_append]
  rfl

end Family

namespace Workspace

open FileSystem

variable {directory : String} {family : Family} {files : FileSystem} {device : Location}

/-- What stands at a path that leads to the full device can be removed: the device, or a link to it. -/
theorem exists_unlink_of_fullDevice {path : String}
    (located : files.locate? .openExisting path = .ok (.fullDevice device)) :
    ∃ after, files.unlink path = .ok after := by
  have created : files.locate? .create path = .ok (.fullDevice device) := locate?_fullDevice_through (by simp) located
  obtain ⟨parent, name, leads, -, stands⟩ := leadsTo_of_locate?_fullDevice created
  obtain ⟨-, ⟨location, looked⟩ | ⟨location, target, looked⟩⟩ := inspect_of_leadsTo_fullDevice leads stands
  · exact ⟨_, by rw [unlink, looked]⟩
  · exact ⟨_, by rw [unlink, looked]⟩

/-- **A generation on the full device notes that it begins and what the chain announces there**, and nothing when it
fails and removes the artifact. -/
theorem generate_of_locate?_fullDevice (located : files.locate? .openExisting (family.artifactPath directory) =
      .ok (.fullDevice device)) {records : List Record}
    (announces : ∀ log, (family.writeChain log (BufferedFile.ofFile .fullDevice)).2.1 = log.noteAll records) :
    ∃ after, ∀ log, generate directory family ⟨files, log⟩ =
      (.error (.file (family.artifactPath directory) .deviceFull),
        ⟨after, log.noteAll (begun directory family :: records)⟩) := by
  obtain ⟨after, unlinked⟩ := exists_unlink_of_fullDevice located
  obtain ⟨held, failed⟩ := family.writeFlush_fullDevice
  have wrote : ∀ log, family.writeChain log (BufferedFile.ofFile .fullDevice) =
      (.error .deviceFull, log.noteAll records, ⟨held, .fullDevice⟩) := by
    intro log
    obtain ⟨result, written⟩ := family.writeChain_eq_writeFlush log (BufferedFile.ofFile .fullDevice)
    rw [failed] at result written
    exact Prod.ext result (Prod.ext (announces log) written)
  refine ⟨after, fun log => ?_⟩
  rw [generate_of_create_ok (create_of_fullDevice located) wrote, finish, discard]
  simp only [store, unlinked]

/-- A generation that writes its artifact notes that it begins, announces each clause and notes that it is done. -/
theorem generate_of_ok {clauses : Nat} {log : Log}
    (succeeds : (generate directory family ⟨files, log⟩).1 = .ok clauses) :
    clauses = family.count ∧ (generate directory family ⟨files, log⟩).2.log =
      log.noteAll (begun directory family :: (family.announced (Encoding.all family.fields) ++
        [⟨.info, s!"Wrote {clauses} clauses to {family.artifactPath directory}"⟩])) := by
  obtain ⟨parent, name, leads, writable, rfl, -⟩ := files_of_generate succeeds
  have wrote := Family.writeChain_of_taken (family.writeFlush_regular (parent ++ [name]))
  rw [generate_of_create_ok (create_of_writable leads writable) wrote, finish, ← List.cons_append, Log.noteAll_append]
  exact ⟨rfl, rfl⟩

end Workspace

namespace Family

theorem utf8ByteSize_replicate : ∀ count : Nat, (String.ofList (List.replicate count 'h')).utf8ByteSize = count
  | 0 => rfl
  | count + 1 => by
    rw [List.replicate_succ, String.ofList_cons, String.utf8ByteSize_append, utf8ByteSize_replicate count,
      String.utf8ByteSize_singleton, Nat.add_comm]
    rfl

/-- The swap instructions, with a handler whose name has `count + 1` letters. -/
def swapNamed (count : Nat) : Family :=
  { swap with
    handler := String.ofList (List.replicate (count + 1) 'h')
    handler_identifier := by
      rw [IsIdentifier, String.toList_ofList, List.replicate_succ]
      refine ⟨by decide, fun c mem => ?_⟩
      rw [List.eq_of_mem_replicate mem]
      decide }

theorem utf8ByteSize_swapNamed (count : Nat) : ((swapNamed count).renderFirst 1).utf8ByteSize = count + 49 ∧
    (swapNamed count).render.utf8ByteSize = 2 * count + 88 := by
  have opening : (Clause.opening ++ "\n").utf8ByteSize = 10 := by decide +kernel
  have clause : ∀ value : UInt32, value.toNat.repr.utf8ByteSize = 1 →
      ((swapNamed count).clauseText ⟨[("byteword", value)]⟩ ++ "\n").utf8ByteSize = count + 39 := by
    intro value digit
    have text : (swapNamed count).clauseText ⟨[("byteword", value)]⟩ =
        "else if (" ++ ("byteword == " ++ value.toNat.repr) ++ ") \x7breturn " ++
          String.ofList (List.replicate (count + 1) 'h') ++ "<" ++ value.toNat.repr ++ ">;\x7d" := rfl
    have fixed : "else if (".utf8ByteSize = 9 ∧ "byteword == ".utf8ByteSize = 12 ∧ ") \x7breturn ".utf8ByteSize = 10 ∧
      "<".utf8ByteSize = 1 ∧ ">;\x7d".utf8ByteSize = 3 ∧ "\n".utf8ByteSize = 1 := by decide +kernel
    simp only [text, String.utf8ByteSize_append, utf8ByteSize_replicate, digit, fixed]
    omega
  have first : ((swapNamed count).renderFirst 1).utf8ByteSize = count + 49 := by
    rw [@renderFirst_succ _ ⟨[("byteword", 0)]⟩ 0 rfl, renderFirst_zero, String.utf8ByteSize_append, opening,
      clause 0 (by decide +kernel)]
    omega
  refine ⟨first, ?_⟩
  rw [← renderFirst_count]
  show ((swapNamed count).renderFirst 2).utf8ByteSize = _
  rw [@renderFirst_succ _ ⟨[("byteword", 1)]⟩ 1 rfl, String.utf8ByteSize_append, first, clause 1 (by decide +kernel)]
  omega

end Family

end DispatchChain
