import DispatchChain.Proofs.ClauseReading
import DispatchChain.Proofs.Refusal
import DispatchChain.Text.Lossy
/-!
# WholeText — the chain of a family, from its first line to its last

The text of a chain is the opening and one clause for each encoding, in the odometer's order, each ended by the only
newline of its line.  All of it is ASCII, so its bytes are read as the same text again.  The clauses are counted alike
wherever they are counted (`Family.render_clause_lines`).
-/
namespace DispatchChain

theorem Text.utf8Encode_ascii : ∀ {cs : List Char}, (∀ c ∈ cs, c.toNat < 128) →
    ∀ byte ∈ cs.utf8Encode.data.toList, byte < 128
  | [], _, byte, mem => by simp at mem
  | c :: cs, ascii, byte, mem => by
    have small : c.toNat < 128 := ascii c List.mem_cons_self
    have single : c.utf8Size = 1 :=
      Char.utf8Size_eq_one_iff.2 (UInt32.le_iff_toNat_le.2 (Nat.le_of_lt_succ small))
    rw [List.utf8Encode_cons, List.utf8Encode_singleton, String.utf8EncodeChar_eq_singleton single,
      ByteArray.toList_data_append, List.toList_data_toByteArray, List.mem_append, List.mem_singleton] at mem
    rcases mem with rfl | later
    · rw [UInt8.lt_iff_toNat_lt]
      exact Nat.lt_of_le_of_lt (Nat.mod_le _ _) small
    · exact utf8Encode_ascii (fun d mem => ascii d (List.mem_cons_of_mem c mem)) byte later

namespace Family

theorem render_ascii (family : Family) : ∀ byte ∈ family.render.toByteArray.data.toList, byte < 128 := by
  rw [← String.utf8Encode_toList]
  refine Text.utf8Encode_ascii fun c mem => ?_
  rw [render_eq_join, join_linePieces, String.toList_join] at mem
  obtain ⟨_, ended, mem⟩ := List.mem_flatMap.1 mem
  obtain ⟨line, listed, rfl⟩ := List.mem_map.1 ended
  rw [String.toList_append] at mem
  rcases List.mem_append.1 mem with inside | newline
  · exact Nat.lt_succ_of_le (Nat.le_trans (family.plain_of_mem_lines listed c inside).2 (by decide))
  · rw [List.mem_singleton.1 newline]
    decide

theorem bounds_odometer (family : Family) : Enumerator.bounds family.odometer = .exactly family.count := by
  show family.odometer.bounds = _
  have counted : wordProduct? (family.fields.map Field.size) = some family.count := (Option.some_get _).symm
  rw [Odometer.bounds, odometer, Odometer.start, counted]
  rfl

end Family

end DispatchChain
