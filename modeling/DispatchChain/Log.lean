/-!
# Log — records of what is done, in five levels of detail

A log keeps the records up to the level it admits and drops the others (`Log.toList_records_note`).
What is computed beside it never depends on what it keeps.
-/
namespace DispatchChain

/-- The levels of a record, from the least to the most detailed. -/
inductive Level
  | error
  | warn
  | info
  | debug
  | trace
deriving DecidableEq, Repr

namespace Level

def detail : Level → Nat
  | error => 1
  | warn => 2
  | info => 3
  | debug => 4
  | trace => 5

def name : Level → String
  | error => "Error"
  | warn => "Warn"
  | info => "Info"
  | debug => "Debug"
  | trace => "Trace"

/-- The name of a level as it marks records. -/
def label : Level → String
  | error => "ERROR"
  | warn => "WARN"
  | info => "INFO"
  | debug => "DEBUG"
  | trace => "TRACE"

def ofLabel? : String → Option Level
  | "ERROR" => some error
  | "WARN" => some warn
  | "INFO" => some info
  | "DEBUG" => some debug
  | "TRACE" => some trace
  | _ => none

def inCapitals (name : String) : String := String.ofList (name.toList.map Char.toUpper)

/-- The level of a name, however its letters are cased. -/
def ofName? (name : String) : Option Level := ofLabel? (inCapitals name)

/-- The most detailed level that a name admits: the level it names, or none if the name is `off`. -/
def finestOfName? (name : String) : Option (Option Level) :=
  if inCapitals name = "OFF" then some none else (ofName? name).map some

@[simp] theorem ofName?_name (level : Level) : ofName? level.name = some level := by
  cases level <;> decide +kernel

theorem finestOfName?_of_ofName? {name : String} {level : Level} (named : ofName? name = some level) :
    finestOfName? name = some (some level) := by
  have on : inCapitals name ≠ "OFF" := by
    intro off
    rw [ofName?, off] at named
    cases named
  rw [finestOfName?, if_neg on, named]
  rfl

end Level

structure Record where
  level : Level
  message : String
deriving DecidableEq, Repr

structure Log where
  /-- The most detailed level that is kept, or nothing if no record is. -/
  finest : Option Level
  records : Array Record
deriving DecidableEq, Repr

namespace Log

def empty (finest : Option Level) : Log := ⟨finest, #[]⟩

def admits (log : Log) (level : Level) : Bool :=
  match log.finest with
  | none => false
  | some finest => level.detail ≤ finest.detail

def note (log : Log) (level : Level) (message : String) : Log :=
  if log.admits level then { log with records := log.records.push ⟨level, message⟩ } else log

/-- The detail of a level that is kept, if any is. -/
def depth : Option Level → Nat
  | none => 0
  | some level => level.detail

theorem admits_empty_iff {finest : Option Level} {level : Level} :
    (Log.empty finest).admits level = true ↔ level.detail ≤ depth finest := by
  cases finest with
  | none => cases level <;> simp [admits, empty, depth, Level.detail]
  | some finest => simp [admits, empty, depth]

@[simp] theorem finest_note (log : Log) (level : Level) (message : String) :
    (log.note level message).finest = log.finest := by
  unfold note; split <;> rfl

/-- **A log that admits a level keeps its record at the end, and nothing else changes.** -/
theorem toList_records_note (log : Log) (level : Level) (message : String) :
    (log.note level message).records.toList =
      log.records.toList ++ if log.admits level then [⟨level, message⟩] else [] := by
  unfold note; split <;> simp_all

end Log

end DispatchChain
