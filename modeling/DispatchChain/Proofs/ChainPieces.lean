import DispatchChain.Chain
import DispatchChain.Proofs.NestedLoops
import DispatchChain.Proofs.WordCount
/-!
# ChainPieces — a chain as the pieces that are written

Whatever the sink, writing the chain of a family writes its lines, each with a line end after it, and
flushes once all were taken (`Family.writeChain_eq_writeFlush`).  The lines are the opening and then a
clause for each encoding that the nested loops list.  So the chain as it is rendered is these pieces
joined (`Family.render_eq_join`), and grows line by line (`Family.renderFirst_succ`).
-/
namespace DispatchChain

namespace Sink

variable {σ ε : Type} [Sink σ ε]

def writeAll : List String → σ → Except ε Unit × σ
  | [], sink => (.ok (), sink)
  | piece :: pieces, sink =>
    match write piece sink with
    | (.error error, sink) => (.error error, sink)
    | (.ok (), sink) => writeAll pieces sink

/-- Writes pieces in order and flushes if all were taken. -/
def writeFlush (pieces : List String) (sink : σ) : Except ε Unit × σ :=
  match writeAll pieces sink with
  | (.error error, sink) => (.error error, sink)
  | (.ok (), sink) => flush sink

theorem writeAll_append : ∀ (pieces more : List String) (sink : σ),
    writeAll (pieces ++ more) sink =
      match writeAll pieces sink with
      | (.error error, sink) => (.error error, sink)
      | (.ok (), sink) => writeAll more sink
  | [], _, _ => rfl
  | piece :: pieces, more, sink => by
    rw [List.cons_append, writeAll, writeAll]
    rcases write piece sink with ⟨_ | _, sink'⟩
    · rfl
    · exact writeAll_append pieces more sink'

theorem writeLine_eq (text : String) (sink : σ) : writeLine text sink = writeAll [text, "\n"] sink := by
  rw [writeLine, writeAll]
  rcases write text sink with ⟨_ | _, sink'⟩
  · rfl
  · simp only [writeAll]
    rcases write "\n" sink' with ⟨_ | _, _⟩ <;> rfl

end Sink

theorem toByteArray_join_cons (piece : String) (pieces : List String) :
    (String.join (piece :: pieces)).toByteArray = piece.toByteArray ++ (String.join pieces).toByteArray := by
  rw [String.join_cons, String.toByteArray_append]

theorem Memory.writeAll_eq : ∀ (pieces : List String) (memory : Memory),
    Sink.writeAll pieces memory = (.ok (), ⟨memory.text ++ String.join pieces⟩)
  | [], memory => by rw [String.join_nil, String.append_empty]; rfl
  | piece :: pieces, memory => by
    rw [Sink.writeAll, String.join_cons, ← String.append_assoc]
    exact Memory.writeAll_eq pieces ⟨memory.text ++ piece⟩

namespace Family

variable {σ ε : Type} [Sink σ ε]

def lines (family : Family) : List String :=
  Clause.opening :: (Encoding.all family.fields).map family.clauseText

def linePieces (lines : List String) : List String := lines.flatMap fun line => [line, "\n"]

theorem join_linePieces_cons (line : String) (lines : List String) :
    String.join (linePieces (line :: lines)) = line ++ "\n" ++ String.join (linePieces lines) := by
  rw [show linePieces (line :: lines) = line :: "\n" :: linePieces lines from rfl, String.join_cons, String.join_cons,
    String.append_assoc]

theorem join_linePieces : ∀ lines : List String,
    String.join (linePieces lines) = String.join (lines.map fun line => line ++ "\n")
  | [] => rfl
  | line :: lines => by rw [join_linePieces_cons, join_linePieces lines, List.map_cons, String.join_cons]

def writeEach (family : Family) :
    List Encoding → (written : Nat) → Log → σ → Except ε Nat × Log × σ
  | [], written, log, sink => (.ok written, log, sink)
  | encoding :: encodings, written, log, sink =>
    let log := log.note .trace (family.traceText encoding)
    match Sink.writeLine (family.clauseText encoding) sink with
    | (.error error, sink) => (.error error, log, sink)
    | (.ok (), sink) => writeEach family encodings (written + 1) log sink

/-- **A clause is written for each encoding that the odometer has to come.** -/
theorem writeClauses_eq_writeEach (family : Family) (odometer : Odometer) (written : Nat) (log : Log) (sink : σ) :
    writeClauses family odometer written log sink = writeEach family odometer.toCome written log sink := by
  fun_induction writeClauses family odometer written log sink with
  | case1 odometer written log sink ended =>
    rw [Odometer.lists_toCome.toCome_of_next?_eq_none ended]
    rfl
  | case2 odometer written log sink encoding rest next fewer announced error sink' failed =>
    rw [Odometer.lists_toCome.toCome_of_next?_eq_some next, writeEach]
    simp only [failed]
    rfl
  | case3 odometer written log sink encoding rest next fewer announced sink' wrote later =>
    rw [Odometer.lists_toCome.toCome_of_next?_eq_some next, writeEach]
    simp only [wrote]
    exact later

theorem count_eq_product (family : Family) : family.count = product (family.fields.map Field.size) :=
  eq_product_of_wordProduct? (Option.some_get family.count_fits).symm

theorem length_all_fields (family : Family) : (Encoding.all family.fields).length = family.count := by
  rw [Encoding.length_all, count_eq_product]

theorem length_lines (family : Family) : family.lines.length = family.count + 1 := by
  rw [lines, List.length_cons, List.length_map, length_all_fields]

theorem writeClauses_odometer (family : Family) (log : Log) (sink : σ) :
    writeClauses family family.odometer 0 log sink = writeEach family (Encoding.all family.fields) 0 log sink := by
  have whole : family.odometer.toCome = Encoding.all family.fields := Odometer.toCome_start family.fields
  rw [writeClauses_eq_writeEach, whole]

theorem writeEach_eq_writeAll (family : Family) : ∀ (encodings : List Encoding) (written : Nat) (log : Log)
    (sink : σ),
    let written' := writeEach family encodings written log sink
    let plain := Sink.writeAll (linePieces (encodings.map family.clauseText)) sink
    written'.1 = plain.1.map (fun () => written + encodings.length) ∧ written'.2.2 = plain.2
  | [], _, _, _ => ⟨rfl, rfl⟩
  | encoding :: encodings, written, log, sink => by
    have pieces : linePieces ((encoding :: encodings).map family.clauseText) =
        [family.clauseText encoding, "\n"] ++ linePieces (encodings.map family.clauseText) := rfl
    simp only [writeEach, Sink.writeLine_eq]
    rw [pieces, Sink.writeAll_append]
    rcases Sink.writeAll [family.clauseText encoding, "\n"] sink with ⟨_ | _, sink'⟩
    · exact ⟨rfl, rfl⟩
    · have later := writeEach_eq_writeAll family encodings (written + 1)
        (log.note .trace (family.traceText encoding)) sink'
      rw [Nat.add_right_comm] at later
      exact later

/-- **Writing a chain is writing the pieces of its lines and flushing**: as to the answer, and as to
the sink. -/
theorem writeChain_eq_writeFlush (family : Family) (log : Log) (sink : σ) :
    (writeChain family log sink).1 = (Sink.writeFlush (linePieces family.lines) sink).1.map (fun () => family.count) ∧
    (writeChain family log sink).2.2 = (Sink.writeFlush (linePieces family.lines) sink).2 := by
  have pieces : linePieces family.lines = [Clause.opening, "\n"] ++
      linePieces ((Encoding.all family.fields).map family.clauseText) := rfl
  rw [writeChain, Sink.writeFlush, Sink.writeLine_eq, pieces, Sink.writeAll_append]
  rcases Sink.writeAll [Clause.opening, "\n"] sink with ⟨_ | _, sink₁⟩
  · exact ⟨rfl, rfl⟩
  · simp only [writeClauses_odometer]
    have each := writeEach_eq_writeAll family (Encoding.all family.fields) 0 log sink₁
    rw [Nat.zero_add, length_all_fields] at each
    revert each
    rcases writeEach family (Encoding.all family.fields) 0 log sink₁ with ⟨outcome, log', sink₂⟩
    rcases Sink.writeAll (linePieces ((Encoding.all family.fields).map family.clauseText)) sink₁
      with ⟨_ | _, sink₃⟩
    · rintro ⟨failed, rfl⟩
      cases failed
      exact ⟨rfl, rfl⟩
    · rintro ⟨written, rfl⟩
      cases written
      simp only
      rcases Sink.flush sink₂ with ⟨_ | _, _⟩ <;> exact ⟨rfl, rfl⟩

theorem renderLogged_fst (family : Family) (log : Log) :
    (family.renderLogged log).1 = String.join (linePieces family.lines) := by
  have sink := (writeChain_eq_writeFlush family log Memory.empty).2
  rw [Sink.writeFlush, Memory.writeAll_eq] at sink
  rw [renderLogged]
  refine (congrArg Memory.text sink).trans ?_
  exact String.empty_append

/-- **The chain of a family is its lines, each with a line end after it.** -/
theorem render_eq_join (family : Family) : family.render = String.join (linePieces family.lines) :=
  renderLogged_fst family _

/-- The chain as far as its first clauses: the opening and `count` clauses, each with its line end. -/
def renderFirst (family : Family) (count : Nat) : String := String.join (linePieces (family.lines.take (count + 1)))

theorem renderFirst_count (family : Family) : family.renderFirst family.count = family.render := by
  rw [renderFirst, ← length_lines, List.take_length, render_eq_join]

theorem renderFirst_eq (family : Family) (count : Nat) :
    family.renderFirst count = Clause.opening ++ "\n" ++
      String.join (linePieces (((Encoding.all family.fields).take count).map family.clauseText)) := by
  rw [renderFirst, lines, List.take_succ_cons, ← List.map_take, join_linePieces_cons]

theorem renderFirst_zero (family : Family) : family.renderFirst 0 = Clause.opening ++ "\n" := by
  rw [renderFirst_eq]
  exact String.append_empty

theorem renderFirst_ne_empty (family : Family) (count : Nat) : family.renderFirst count ≠ "" := by
  rw [renderFirst_eq]
  intro empty
  have no_opening : Clause.opening ++ "\n" = "" := (String.append_eq_empty_iff.1 empty).1
  exact absurd no_opening (by decide +kernel)

theorem renderFirst_succ {family : Family} {encoding : Encoding} {index : Nat}
    (at_ : (Encoding.all family.fields)[index]? = some encoding) :
    family.renderFirst (index + 1) = family.renderFirst index ++ (family.clauseText encoding ++ "\n") := by
  have pieces : ∀ lines more : List String, linePieces (lines ++ more) = linePieces lines ++ linePieces more :=
    fun _ _ => List.flatMap_append
  have last : String.join (linePieces [family.clauseText encoding]) = family.clauseText encoding ++ "\n" := by
    rw [join_linePieces_cons]
    exact String.append_empty
  rw [renderFirst_eq, renderFirst_eq, List.take_add_one, at_, Option.toList_some, List.map_append, List.map_singleton,
    pieces, String.join_append, last, ← String.append_assoc]

theorem render_ne_empty (family : Family) : family.render ≠ "" := by
  rw [← renderFirst_count]
  exact family.renderFirst_ne_empty _

end Family

def Family.swap : Family where
  artifact := "SWP_INSTR.gencpp"
  fields := [⟨"byteword", .below 2, by decide +kernel, show (2 : UInt32) ≠ 0 by decide⟩]
  handler := "arm_swp"
  artifact_name := by decide +kernel
  handler_identifier := by decide +kernel
  fields_distinct := by decide +kernel
  count_fits := by decide +kernel

end DispatchChain
