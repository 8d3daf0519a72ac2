import DispatchChain.Proofs.ClauseReading
/-!
# Dispatch — what a family's chain does with the variables

Read back and taken as the chain of conditions that it is, the text of a family returns the handler
instantiated with the variables' values, by one clause and no other, if every field's variable has a
value of the field; otherwise it returns nothing.
-/
namespace DispatchChain

namespace Encoding

/-- The encoding that the variables hold. -/
def held (fields : List Field) (env : String → UInt32) : Encoding :=
  ⟨fields.map fun field => (field.name, env field.name)⟩

theorem isOf_held_iff (env : String → UInt32) : ∀ fields : List Field,
    (held fields env).IsOf fields ↔ ∀ field ∈ fields, field.values.Contains (env field.name)
  | [] => by
    simp only [List.not_mem_nil, false_implies, implies_true, iff_true]
    exact .nil
  | field :: fields => by
    have later := isOf_held_iff env fields
    rw [List.forall_mem_cons, ← later]
    exact List.forall₂_cons.trans (and_congr_left fun _ => and_iff_right rfl)

theorem holds_ofEncoding_iff {fields : List Field} {encoding : Encoding} (isOf : encoding.IsOf fields)
    (handler : String) (env : String → UInt32) :
    (Clause.ofEncoding handler encoding).Holds env ↔ encoding = held fields env := by
  have names := isOf.map_fst
  have same : held fields env = ⟨encoding.pairs.map fun pair => (pair.1, env pair.1)⟩ := by
    have paired := congrArg (List.map fun name => (name, env name)) names
    rw [List.map_map, List.map_map] at paired
    exact congrArg Encoding.mk paired.symm
  rw [same]
  constructor
  · intro holds
    obtain ⟨pairs⟩ := encoding
    refine congrArg Encoding.mk ((List.map_id pairs).symm.trans (List.map_congr_left fun pair mem => ?_))
    exact Prod.ext rfl (holds pair mem).symm
  · intro eq pair mem
    have mem' : pair ∈ encoding.pairs := mem
    rw [eq] at mem'
    obtain ⟨other, -, rfl⟩ := List.mem_map.1 mem'
    rfl

/-- **Of the encodings that the loops list, the variables pick the one that they hold.** -/
theorem filter_holds_all (fields : List Field) (handler : String) (env : String → UInt32) :
    ((all fields).filter fun encoding => decide ((Clause.ofEncoding handler encoding).Holds env)) =
      if ∀ field ∈ fields, field.values.Contains (env field.name) then [held fields env] else [] := by
  have same : ∀ encoding ∈ all fields,
      decide ((Clause.ofEncoding handler encoding).Holds env) = (encoding == held fields env) := by
    intro encoding listed
    rw [Bool.eq_iff_iff, decide_eq_true_eq, beq_iff_eq]
    exact holds_ofEncoding_iff ((mem_all_iff fields encoding).1 listed) handler env
  rw [List.filter_congr same, List.filter_beq, (nodup_all fields).count]
  simp only [mem_all_iff, isOf_held_iff]
  split <;> rfl

end Encoding

namespace Family

/-- Whether every field's variable has a value of the field. -/
def Admits (family : Family) (env : String → UInt32) : Prop :=
  ∀ field ∈ family.fields, field.values.Contains (env field.name)

instance (family : Family) (env : String → UInt32) : Decidable (family.Admits env) :=
  inferInstanceAs (Decidable (∀ field ∈ family.fields, field.values.Contains (env field.name)))

/-- The clause that tests every field's variable for the value that it has, and returns the handler
instantiated with these values in field order. -/
def clauseFor (family : Family) (env : String → UInt32) : Clause where
  tests := family.fields.map fun field => (field.name, env field.name)
  handler := family.handler
  arguments := family.fields.map fun field => env field.name

theorem filter_holds_clauses (family : Family) (env : String → UInt32) :
    (family.clauses.filter fun clause => decide (clause.Holds env)) =
      if family.Admits env then [family.clauseFor env] else [] := by
  have picked : ((Encoding.all family.fields).filter fun encoding =>
      decide ((Clause.ofEncoding family.handler encoding).Holds env)) =
      if family.Admits env then [Encoding.held family.fields env] else [] :=
    Encoding.filter_holds_all family.fields family.handler env
  have arguments : (Encoding.held family.fields env).values = family.fields.map fun field => env field.name := by
    rw [Encoding.values, Encoding.held, List.map_map]
    rfl
  rw [clauses, List.filter_map, Function.comp_def, picked]
  split
  · rw [List.map_singleton, Clause.ofEncoding, arguments]
    rfl
  · rfl

/-- Of all branches, the opening included, only the clause of the variables' values can hold. -/
theorem filter_holds_branches (family : Family) (env : String → UInt32) :
    (family.branches.filter fun branch => decide (branch.Holds env)) =
      if family.Admits env then [.returns (family.clauseFor env)] else [] := by
  have idle : ¬ (Branch.idle .never).Holds env := id
  have clauses : ((family.clauses.map Branch.returns).filter fun branch => decide (branch.Holds env)) =
      (family.clauses.filter fun clause => decide (clause.Holds env)).map Branch.returns := by
    rw [List.filter_map]
    rfl
  rw [branches, List.filter_cons_of_neg (by simpa using idle), clauses, filter_holds_clauses]
  split <;> rfl

/-- **A chain dispatches on its fields.**  It is read as a chain of branches.  If every field's variable
has a value of the field, exactly one branch holds, and it is taken: the clause that returns the handler
instantiated with these values in field order.  Otherwise no branch holds and none is taken.  Without
fields there is a single clause after the branch that never holds, without tests or arguments. -/
theorem chain_dispatches (family : Family) (env : String → UInt32) :
    ∃ branches, Branch.readChain? family.render = some branches ∧
      (branches.filter fun branch => decide (branch.Holds env)) =
        (if family.Admits env then [.returns (family.clauseFor env)] else []) ∧
      Branch.taken? env branches = (if family.Admits env then some (.returns (family.clauseFor env)) else none) ∧
      (family.fields = [] → branches = [.idle .never, .returns ⟨[], family.handler, []⟩]) := by
  refine ⟨family.branches, family.readChain?_render, family.filter_holds_branches env, ?_, ?_⟩
  · rw [Branch.taken?, ← List.head?_filter, filter_holds_branches]
    split <;> rfl
  · intro fieldless
    rw [branches, clauses, fieldless]
    rfl

end Family

end DispatchChain
