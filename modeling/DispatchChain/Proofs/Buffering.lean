import DispatchChain.FileSystem.OpenFile
import DispatchChain.Proofs.ChainPieces
/-!
# Buffering — what reaches a file behind its buffer

Pieces written to a regular file behind a buffer and then flushed are all in the file, whatever their
sizes (`BufferedFile.writeFlush_regular`).  On the full device nothing gets past the buffer: the
pieces are held back until one does not fit, or until the flush, and there the writing fails
(`BufferedFile.writeFlush_fullDevice`).
-/
namespace DispatchChain

theorem size_pos_of_ne_empty {bytes : ByteArray} (nonempty : bytes ≠ .empty) : 0 < bytes.size :=
  Nat.pos_of_ne_zero fun zero => nonempty (ByteArray.size_eq_zero_iff.1 zero)

theorem isEmpty_eq_false {bytes : ByteArray} (nonempty : bytes ≠ .empty) : bytes.isEmpty = false := by
  rw [ByteArray.isEmpty, beq_eq_false_iff_ne]
  exact Nat.ne_of_gt (size_pos_of_ne_empty nonempty)

namespace BufferedFile

variable {location : Location}

theorem write_of_fits {held bytes : ByteArray} {file : OpenFile} (fits : held.size + bytes.size ≤ capacity)
    (small : bytes.size < capacity) : write bytes ⟨held, file⟩ = (.ok (), ⟨held ++ bytes, file⟩) := by
  rw [write, if_pos fits, accept, if_pos small]

/-- **A line that fits beside what is held back is held back**, and the file is as it was. -/
theorem writeLine_of_fits {held : ByteArray} {file : OpenFile} {text : String}
    (fits : held.size + (text ++ "\n").utf8ByteSize ≤ capacity) :
    Sink.writeLine text (⟨held, file⟩ : BufferedFile) = (.ok (), ⟨held ++ (text ++ "\n").toByteArray, file⟩) := by
  have lineEnd : "\n".toByteArray.size = 1 := rfl
  rw [String.utf8ByteSize_append, ← String.size_toByteArray, ← String.size_toByteArray, lineEnd] at fits
  have taken : write text.toByteArray ⟨held, file⟩ = (.ok (), ⟨held ++ text.toByteArray, file⟩) :=
    write_of_fits (by omega) (by omega)
  have ended : write "\n".toByteArray ⟨held ++ text.toByteArray, file⟩ =
      (.ok (), ⟨held ++ text.toByteArray ++ "\n".toByteArray, file⟩) :=
    write_of_fits (by rw [ByteArray.size_append, lineEnd]; omega) (by decide)
  rw [Sink.writeLine, show Sink.write text _ = _ from taken, String.toByteArray_append, ← ByteArray.append_assoc]
  exact ended

theorem write_regular (held written bytes : ByteArray) :
    ∃ held' written',
      write bytes ⟨held, .regular location written⟩ = (.ok (), ⟨held', .regular location written'⟩) ∧
      written' ++ held' = written ++ held ++ bytes := by
  by_cases fits : held.size + bytes.size ≤ capacity
  · by_cases small : bytes.size < capacity
    · exact ⟨_, _, write_of_fits fits small, ByteArray.append_assoc.symm⟩
    · -- A piece that fills the buffer fits beside nothing else.
      have unheld : held = .empty := ByteArray.size_eq_zero_iff.1 (by omega)
      rw [write, if_pos fits, accept, if_neg small, unheld, ByteArray.append_empty]
      exact ⟨_, _, rfl, ByteArray.append_empty⟩
  · rw [write, if_neg fits]
    show ∃ held' written', accept bytes ⟨.empty, .regular location (written ++ held)⟩ = _ ∧ _
    rw [accept]
    by_cases small : bytes.size < capacity
    · rw [if_pos small, ByteArray.empty_append]
      exact ⟨_, _, rfl, rfl⟩
    · rw [if_neg small]
      exact ⟨_, _, rfl, ByteArray.append_empty⟩

theorem writeAll_regular : ∀ (pieces : List String) (held written : ByteArray),
    ∃ held' written', Sink.writeAll pieces (⟨held, .regular location written⟩ : BufferedFile) =
        (.ok (), ⟨held', .regular location written'⟩) ∧
      written' ++ held' = written ++ held ++ (String.join pieces).toByteArray
  | [], held, written => ⟨held, written, rfl, ByteArray.append_empty.symm⟩
  | piece :: pieces, held, written => by
    obtain ⟨held₁, written₁, step, sum₁⟩ := @write_regular location held written piece.toByteArray
    obtain ⟨held₂, written₂, rest, sum₂⟩ := writeAll_regular pieces held₁ written₁
    refine ⟨held₂, written₂, ?_, ?_⟩
    · rw [Sink.writeAll, show Sink.write piece _ = _ from step]
      exact rest
    · rw [sum₂, sum₁, toByteArray_join_cons, ByteArray.append_assoc]

/-- **Pieces written to a regular file and flushed are its bytes**, in order and nothing else. -/
theorem writeFlush_regular (pieces : List String) :
    Sink.writeFlush pieces (ofFile (.regular location .empty)) =
      (.ok (), ⟨.empty, .regular location (String.join pieces).toByteArray⟩) := by
  obtain ⟨held, written, all, sum⟩ := @writeAll_regular location pieces .empty .empty
  rw [Sink.writeFlush, ofFile, all]
  show passOn _ = _
  rw [ByteArray.append_empty, ByteArray.empty_append] at sum
  rw [← sum]
  rfl

/-- What does not fit beside what is held back fails on the full device, where nothing can be passed on. -/
theorem write_fullDevice_of_lt {held bytes : ByteArray} (some_held : held ≠ .empty)
    (exceeds : capacity < held.size + bytes.size) :
    write bytes ⟨held, .fullDevice⟩ = (.error .deviceFull, ⟨held, .fullDevice⟩) := by
  rw [write, if_neg (Nat.not_le.2 exceeds), passOn, OpenFile.append, isEmpty_eq_false some_held]
  rfl

/-- **A line that does not fit beside what is held back fails on the full device**, with its text or with its end. -/
theorem writeLine_fullDevice_of_lt {held : ByteArray} {text : String} (some_held : held ≠ .empty)
    (exceeds : capacity < held.size + (text ++ "\n").utf8ByteSize) :
    ∃ held', Sink.writeLine text (⟨held, .fullDevice⟩ : BufferedFile) = (.error .deviceFull, ⟨held', .fullDevice⟩) := by
  have lineEnd : "\n".toByteArray.size = 1 := rfl
  have holds : 0 < held.size := size_pos_of_ne_empty some_held
  rw [String.utf8ByteSize_append, ← String.size_toByteArray, ← String.size_toByteArray, lineEnd] at exceeds
  rw [Sink.writeLine]
  by_cases fits : held.size + text.toByteArray.size ≤ capacity
  · have taken : write text.toByteArray ⟨held, .fullDevice⟩ = (.ok (), ⟨held ++ text.toByteArray, .fullDevice⟩) :=
      write_of_fits fits (by omega)
    have size : (held ++ text.toByteArray).size = held.size + text.toByteArray.size := ByteArray.size_append
    rw [show Sink.write text _ = _ from taken]
    refine ⟨held ++ text.toByteArray, write_fullDevice_of_lt (fun none_held => ?_) (by omega)⟩
    rw [none_held, ByteArray.size_empty] at size
    omega
  · have failed : write text.toByteArray ⟨held, .fullDevice⟩ = (.error .deviceFull, ⟨held, .fullDevice⟩) :=
      write_fullDevice_of_lt some_held (Nat.not_le.1 fits)
    rw [show Sink.write text _ = _ from failed]
    exact ⟨held, rfl⟩

/-- A piece written to the full device is held back with all that was written before, or fails. -/
theorem write_fullDevice (held bytes : ByteArray) :
    (∃ held', write bytes ⟨held, .fullDevice⟩ = (.error .deviceFull, ⟨held', .fullDevice⟩)) ∨
      write bytes ⟨held, .fullDevice⟩ = (.ok (), ⟨held ++ bytes, .fullDevice⟩) := by
  by_cases fits : held.size + bytes.size ≤ capacity ∧ bytes.size < capacity
  · exact .inr (write_of_fits fits.1 fits.2)
  · left
    by_cases unheld : held = .empty
    · -- The piece alone fills the buffer, and the device refuses it whether or not it fits beside nothing.
      subst unheld
      have large : ¬ bytes.size < capacity := fun small =>
        fits ⟨by rw [ByteArray.size_empty]; omega, small⟩
      have nonempty : bytes ≠ .empty := by
        rintro rfl
        exact large (by decide)
      have refused : accept bytes ⟨.empty, .fullDevice⟩ = (.error .deviceFull, ⟨.empty, .fullDevice⟩) := by
        rw [accept, if_neg large, OpenFile.append, isEmpty_eq_false nonempty]
        rfl
      refine ⟨.empty, ?_⟩
      rw [write]
      split
      · exact refused
      · exact refused
    · have holds : 0 < held.size := size_pos_of_ne_empty unheld
      exact ⟨held, write_fullDevice_of_lt unheld (by omega)⟩

theorem writeAll_fullDevice : ∀ (pieces : List String) (held : ByteArray),
    (∃ held', Sink.writeAll pieces (⟨held, .fullDevice⟩ : BufferedFile) =
        (.error .deviceFull, ⟨held', .fullDevice⟩)) ∨
      Sink.writeAll pieces (⟨held, .fullDevice⟩ : BufferedFile) =
        (.ok (), ⟨held ++ (String.join pieces).toByteArray, .fullDevice⟩)
  | [], held => .inr (by rw [String.join_nil, show "".toByteArray = .empty from rfl, ByteArray.append_empty]; rfl)
  | piece :: pieces, held => by
    rw [Sink.writeAll]
    rcases write_fullDevice held piece.toByteArray with ⟨held', failed⟩ | taken
    · rw [show Sink.write piece _ = _ from failed]
      exact .inl ⟨held', rfl⟩
    · rw [show Sink.write piece _ = _ from taken, toByteArray_join_cons, ← ByteArray.append_assoc]
      exact writeAll_fullDevice pieces (held ++ piece.toByteArray)

/-- **Writing anything to the full device and flushing fails**, at the latest when it is flushed. -/
theorem writeFlush_fullDevice {pieces : List String} (nonempty : String.join pieces ≠ "") :
    ∃ held, Sink.writeFlush pieces (ofFile .fullDevice) = (.error .deviceFull, ⟨held, .fullDevice⟩) := by
  rcases writeAll_fullDevice pieces .empty with ⟨held, failed⟩ | taken
  · exact ⟨held, by rw [Sink.writeFlush, ofFile, failed]⟩
  · have some_held : (String.join pieces).toByteArray ≠ .empty := fun none_held =>
      nonempty (String.toByteArray_inj.1 none_held)
    rw [ByteArray.empty_append] at taken
    refine ⟨(String.join pieces).toByteArray, ?_⟩
    rw [Sink.writeFlush, ofFile, taken]
    show passOn _ = _
    rw [passOn, OpenFile.append, isEmpty_eq_false some_held]
    rfl

end BufferedFile

namespace Family

theorem writeFlush_regular (family : Family) (location : Location) :
    Sink.writeFlush (linePieces family.lines) (BufferedFile.ofFile (.regular location .empty)) =
      (.ok (), ⟨.empty, .regular location family.render.toByteArray⟩) := by
  rw [render_eq_join]
  exact BufferedFile.writeFlush_regular _

/-- **No chain can be written to the full device**, however short. -/
theorem writeFlush_fullDevice (family : Family) :
    ∃ held, Sink.writeFlush (linePieces family.lines) (BufferedFile.ofFile .fullDevice) =
      (.error .deviceFull, ⟨held, .fullDevice⟩) := by
  refine BufferedFile.writeFlush_fullDevice ?_
  rw [← render_eq_join]
  exact family.render_ne_empty

end Family

end DispatchChain
