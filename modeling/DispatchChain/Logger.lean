import DispatchChain.Log
/-!
# Logger — which records of a run are printed

By the text of a filter a logger says down to which level records are noted at all, and which of those it keeps for the
error stream.  How texts are read is the logger's own affair; every logger knows the names of the levels, and `off`.
Which module notes a record can be told from its level and message (`Record.origin`), so a filter for modules is one for
records.
-/
namespace DispatchChain

structure Logger where
  /-- The most detailed level of which a filter with a text keeps anything: of more detail nothing is noted. -/
  finest : (text : String) → Option Level
  /-- Whether a filter with a text keeps a record that was noted. -/
  keeps : (text : String) → Record → Bool
  admits_of_keeps : ∀ {text record}, keeps text record = true → (Log.empty (finest text)).admits record.level = true
  /-- A filter that names a level, or none, keeps what a log up to that level admits. -/
  keeps_of_name : ∀ {text level}, Level.finestOfName? text = some level →
    ∀ record, keeps text record = (Log.empty level).admits record.level

namespace Logger

variable {logger : Logger} {text : String}

def AdmitsErrors (logger : Logger) (text : String) : Prop :=
  ∀ record : Record, record.level = .error → logger.keeps text record = true

theorem admitsErrors_of_ofName? {level : Level} (named : Level.ofName? text = some level) :
    logger.AdmitsErrors text := by
  intro record isError
  rw [logger.keeps_of_name (Level.finestOfName?_of_ofName? named), isError]
  cases level <;> rfl

theorem filter_admitted (logger : Logger) (text : String) (records : List Record) :
    ((records.filter fun record => (Log.empty (logger.finest text)).admits record.level).filter (logger.keeps text)) =
      records.filter (logger.keeps text) := by
  rw [List.filter_filter]
  refine List.filter_congr fun record _ => ?_
  cases kept : logger.keeps text record with
  | false => rfl
  | true => exact logger.admits_of_keeps kept

theorem filter_errors (admits : logger.AdmitsErrors text) {records : List Record}
    (errors : ∀ record ∈ records, record.level = .error) : records.filter (logger.keeps text) = records :=
  List.filter_eq_self.2 fun record mem => admits record (errors record mem)

end Logger

end DispatchChain
