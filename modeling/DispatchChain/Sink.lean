/-!
# Sink — what text can be written to

A sink takes text piece by piece and is flushed at the end.  A piece may fail; what a sink had taken
before stays with it.
-/
namespace DispatchChain

/-- States `σ` to which text is written, failing with errors `ε`. -/
class Sink (σ : Type) (ε : outParam Type) where
  write : String → σ → Except ε Unit × σ
  /-- Passes on whatever is held back. -/
  flush : σ → Except ε Unit × σ

/-- Writes a text and a line end, as two pieces. -/
def Sink.writeLine {σ ε : Type} [Sink σ ε] (text : String) (sink : σ) : Except ε Unit × σ :=
  match write text sink with
  | (.error error, sink) => (.error error, sink)
  | (.ok (), sink) => write "\n" sink

/-- A sink that keeps all its text. -/
structure Memory where
  text : String
deriving DecidableEq, Repr

namespace Memory

def empty : Memory := ⟨""⟩

/-- Writing to memory never fails. -/
instance : Sink Memory Empty where
  write piece memory := (.ok (), ⟨memory.text ++ piece⟩)
  flush memory := (.ok (), memory)

end Memory

end DispatchChain
