import DispatchChain.FileSystem.Error
import DispatchChain.Sink
/-!
# LimitedSink — a sink with room for so many bytes

A limited sink takes as much of a piece as it has room for, and then refuses: with an error of its
own, or by taking nothing, which its writer must answer for.  Its flushes are counted and may fail.
-/
namespace DispatchChain

/-- How a sink without room refuses more. -/
inductive Refusal
  | fails (error : FileError)
  /-- It takes nothing, and says so. -/
  | takesNothing
deriving DecidableEq, Repr

/-- The error that the writer of a refused piece sees. -/
def Refusal.error : Refusal → FileError
  | fails error => error
  | takesNothing => .nothingTaken

/-- A sink that takes so many bytes and no more. -/
structure LimitedSink where
  accepted : ByteArray
  /-- The number of bytes that it still takes, if there is a limit. -/
  room : Option Nat
  refusal : Refusal
  flushError : Option FileError
  flushes : Nat

namespace LimitedSink

def empty (room : Option Nat) (refusal : Refusal) (flushError : Option FileError) : LimitedSink :=
  ⟨.empty, room, refusal, flushError, 0⟩

/-- Takes the bytes that there is room for, and refuses if that is not all. -/
def take (bytes : ByteArray) (sink : LimitedSink) : Except FileError Unit × LimitedSink :=
  match sink.room with
  | none => (.ok (), { sink with accepted := sink.accepted ++ bytes })
  | some room =>
    if bytes.size ≤ room then
      (.ok (), { sink with accepted := sink.accepted ++ bytes, room := some (room - bytes.size) })
    else
      (.error sink.refusal.error,
        { sink with accepted := sink.accepted ++ bytes.extract 0 room, room := some 0 })

/-- Counts a flush, and fails if flushes do. -/
def flush (sink : LimitedSink) : Except FileError Unit × LimitedSink :=
  let sink := { sink with flushes := sink.flushes + 1 }
  match sink.flushError with
  | some error => (.error error, sink)
  | none => (.ok (), sink)

instance : Sink LimitedSink FileError where
  write piece := take piece.toByteArray
  flush := flush

end LimitedSink

end DispatchChain
