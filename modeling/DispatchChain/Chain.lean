import DispatchChain.Clause
import DispatchChain.Family
import DispatchChain.Log
import DispatchChain.Odometer.Rank
import DispatchChain.Sink
/-!
# Chain — writing the dispatch chain of a family

The chain of a family is the opening statement and one clause for each encoding, each on a line of
its own, in the order of the odometer.  `Family.writeChain` writes it to any sink, stopping at the
first piece that fails and flushing only when every piece was taken.  `Family.render` is the chain
as it is written to memory.
-/
namespace DispatchChain

namespace Family

variable {σ ε : Type} [Sink σ ε]

def clauseText (family : Family) (encoding : Encoding) : String :=
  (Clause.ofEncoding family.handler encoding).text

/-- The record that announces the clause of an encoding. -/
def traceText (family : Family) (encoding : Encoding) : String :=
  family.artifact ++ ": " ++ encoding.text

/-- Writes a clause for each encoding to come, announcing each in the log before it is written.  Answers
how many were written, counting from `written`. -/
def writeClauses (family : Family) (odometer : Odometer) (written : Nat) (log : Log) (sink : σ) :
    Except ε Nat × Log × σ :=
  match next : odometer.next? with
  | none => (.ok written, log, sink)
  | some (encoding, rest) =>
    have := Odometer.left_of_next? next
    let log := log.note .trace (family.traceText encoding)
    match Sink.writeLine (family.clauseText encoding) sink with
    | (.error error, sink) => (.error error, log, sink)
    | (.ok (), sink) => writeClauses family rest (written + 1) log sink
termination_by odometer.left

/-- Writes the chain of a family and flushes the sink.  Answers the number of clauses. -/
def writeChain (family : Family) (log : Log) (sink : σ) : Except ε Nat × Log × σ :=
  match Sink.writeLine Clause.opening sink with
  | (.error error, sink) => (.error error, log, sink)
  | (.ok (), sink) =>
    match writeClauses family family.odometer 0 log sink with
    | (.error error, log, sink) => (.error error, log, sink)
    | (.ok clauses, log, sink) =>
      match Sink.flush sink with
      | (.error error, sink) => (.error error, log, sink)
      | (.ok (), sink) => (.ok clauses, log, sink)

/-- The text of the chain, and the log with the clauses announced. -/
def renderLogged (family : Family) (log : Log) : String × Log :=
  let (_, log, memory) := writeChain family log Memory.empty
  (memory.text, log)

def render (family : Family) : String := (family.renderLogged (.empty none)).1

end Family

end DispatchChain
