import DispatchChain.Proofs.ClauseReading
import DispatchChain.Proofs.Generation
/-!
# Unambiguity — what the chain of a family tells of the family

Two families have the same chain exactly if they agree in the handler and, field by field, in the name and the values
in their order (`Family.render_determines`).  The clauses are read back from the chain, and with them the encodings in
the order of the nested loops.  These list in blocks what the first field's values stand before, so that the first block
is the loops of the other fields, and the blocks tell the values.
-/
namespace DispatchChain

namespace ValueSet

theorem toList_ne_nil {set : ValueSet} (lawful : set.Lawful) : set.toList ≠ [] := by
  rw [← List.length_pos_iff, length_toList]
  exact size_pos_of_lawful lawful

/-- **Two sets list the same values if they are the same**, or if one lists what the other has below its bound. -/
theorem toList_eq_iff (set other : ValueSet) : set.toList = other.toList ↔
    set = other ∨ ∃ bound,
      set = below bound ∧ other = listed ((List.range bound.toNat).map UInt32.ofNat) ∨
      other = below bound ∧ set = listed ((List.range bound.toNat).map UInt32.ofNat) := by
  constructor
  · intro same
    cases set with
    | below bound =>
      cases other with
      | below bound' =>
        have sizes := congrArg List.length same
        rw [length_toList, length_toList] at sizes
        exact .inl (congrArg below (UInt32.toNat_inj.1 sizes))
      | listed values => exact .inr ⟨bound, .inl ⟨rfl, congrArg listed same.symm⟩⟩
    | listed values =>
      cases other with
      | below bound => exact .inr ⟨bound, .inr ⟨rfl, congrArg listed same⟩⟩
      | listed values' => exact .inl (congrArg listed same)
  · rintro (rfl | ⟨bound, ⟨rfl, rfl⟩ | ⟨rfl, rfl⟩⟩) <;> rfl

end ValueSet

namespace Encoding

theorem all_ne_nil : ∀ fields : List Field, all fields ≠ []
  | [] => List.cons_ne_nil _ _
  | field :: fields => by
    obtain ⟨value, values, some_value⟩ := List.exists_cons_of_ne_nil (ValueSet.toList_ne_nil field.values_lawful)
    rw [all, some_value, List.flatMap_cons]
    exact List.append_ne_nil_of_left_ne_nil (mt List.map_eq_nil_iff.1 (all_ne_nil fields)) _

theorem cons_inj (name : String) (value : UInt32) : Function.Injective (cons name value) := by
  rintro ⟨pairs⟩ ⟨pairs'⟩ eq
  exact congrArg Encoding.mk (List.cons.inj (congrArg Encoding.pairs eq)).2

/-- The encodings that start with each of some values, followed by each of some later encodings. -/
def blocks (name : String) (later : List Encoding) (values : List UInt32) : List Encoding :=
  values.flatMap fun value => later.map (cons name value)

def StartsWith (value : UInt32) (encoding : Encoding) : Prop := encoding.values.head? = some value

instance (value : UInt32) : DecidablePred (StartsWith value) := fun encoding =>
  inferInstanceAs (Decidable (encoding.values.head? = some value))

theorem filter_startsWith_blocks (name : String) (later : List Encoding) {value : UInt32} {values : List UInt32}
    (fresh : value ∉ values) :
    (blocks name later (value :: values)).filter (fun encoding => decide (StartsWith value encoding)) =
      later.map (cons name value) := by
  rw [blocks, List.flatMap_cons, List.filter_append, List.filter_eq_self.2, List.filter_eq_nil_iff.2, List.append_nil]
  · intro encoding mem starts
    obtain ⟨other, listed, mem⟩ := List.mem_flatMap.1 mem
    obtain ⟨_, _, rfl⟩ := List.mem_map.1 mem
    have same : other = value := Option.some.inj (of_decide_eq_true starts)
    exact fresh (same ▸ listed)
  · intro encoding mem
    obtain ⟨_, _, rfl⟩ := List.mem_map.1 mem
    exact decide_eq_true rfl

/-- **Blocks tell the values that they start with, and what follows these**, if no value starts two of them. -/
theorem blocks_inj (name : String) {later later' : List Encoding} (some_later : later ≠ [])
    (some_later' : later' ≠ []) : ∀ {values values' : List UInt32}, values.Nodup → values'.Nodup →
      blocks name later values = blocks name later' values' → values = values' ∧ (values ≠ [] → later = later')
  | [], [], _, _, _ => ⟨rfl, fun some_value => absurd rfl some_value⟩
  | [], value' :: values', _, _, same => by
    obtain ⟨encoding, more, first⟩ := List.exists_cons_of_ne_nil some_later'
    rw [first] at same
    cases same
  | value :: values, [], _, _, same => by
    obtain ⟨encoding, more, first⟩ := List.exists_cons_of_ne_nil some_later
    rw [first] at same
    cases same
  | value :: values, value' :: values', nodup, nodup', same => by
    obtain ⟨fresh, later_nodup⟩ := List.nodup_cons.1 nodup
    obtain ⟨fresh', later_nodup'⟩ := List.nodup_cons.1 nodup'
    have first : value = value' := by
      obtain ⟨encoding, more, starts⟩ := List.exists_cons_of_ne_nil some_later
      obtain ⟨encoding', more', starts'⟩ := List.exists_cons_of_ne_nil some_later'
      rw [starts, starts'] at same
      have heads := congrArg (fun l => l.head?.bind fun encoding => encoding.values.head?) same
      exact Option.some.inj heads
    subst first
    have block : later.map (cons name value) = later'.map (cons name value) := by
      rw [← filter_startsWith_blocks name later fresh, same, filter_startsWith_blocks name later' fresh']
    have rest : blocks name later values = blocks name later' values' := by
      rw [blocks, List.flatMap_cons, block] at same
      exact List.append_cancel_left same
    obtain ⟨rfl, _⟩ := blocks_inj name some_later some_later' later_nodup later_nodup' rest
    exact ⟨rfl, fun _ => (cons_inj name value).list_map block⟩

/-- Fields that agree in their names and in their values, in order. -/
def SameLoops : List Field → List Field → Prop :=
  List.Forall₂ fun field other => field.name = other.name ∧ field.values.toList = other.values.toList

theorem map_name_of_all_eq {fields others : List Field} (same : all fields = all others) :
    fields.map Field.name = others.map Field.name := by
  obtain ⟨encoding, more, first⟩ := List.exists_cons_of_ne_nil (all_ne_nil fields)
  have listed : encoding ∈ all fields := by rw [first]; exact List.mem_cons_self
  have listed' : encoding ∈ all others := same ▸ listed
  rw [← ((mem_all_iff fields encoding).1 listed).map_fst, ← ((mem_all_iff others encoding).1 listed').map_fst]

theorem sameLoops_of_all_eq : ∀ {fields others : List Field}, fields.map Field.name = others.map Field.name →
    all fields = all others → SameLoops fields others
  | [], [], _, _ => .nil
  | field :: fields, other :: others, names, same => by
    obtain ⟨name, later_names⟩ := List.cons.inj names
    have same_blocks : blocks field.name (all fields) field.values.toList =
        blocks field.name (all others) other.values.toList := by
      rw [show blocks field.name (all fields) field.values.toList = all (field :: fields) from rfl, same, name]
      rfl
    obtain ⟨values, later⟩ := blocks_inj field.name (all_ne_nil fields) (all_ne_nil others)
      (ValueSet.nodup_toList field.values_lawful) (ValueSet.nodup_toList other.values_lawful) same_blocks
    exact .cons ⟨name, values⟩
      (sameLoops_of_all_eq later_names (later (ValueSet.toList_ne_nil field.values_lawful)))

theorem SameLoops.all_eq : ∀ {fields others : List Field}, SameLoops fields others → all fields = all others
  | [], [], _ => rfl
  | field :: fields, other :: others, same => by
    obtain ⟨⟨name, values⟩, later⟩ := List.forall₂_cons.1 same
    rw [all, all, name, values, SameLoops.all_eq later]

/-- **The nested loops tell the names and the values of their fields**, in order. -/
theorem all_eq_iff (fields others : List Field) : all fields = all others ↔ SameLoops fields others :=
  ⟨fun same => sameLoops_of_all_eq (map_name_of_all_eq same) same, SameLoops.all_eq⟩

end Encoding

namespace Family

/-- Two families dispatch the same values in the same order to the same handler, by variables of the same names. -/
structure Agrees (family other : Family) : Prop where
  handler : family.handler = other.handler
  fields : Encoding.SameLoops family.fields other.fields

theorem clauses_eq_iff (family other : Family) : family.clauses = other.clauses ↔ family.Agrees other := by
  constructor
  · intro same
    have tests := congrArg (List.map fun clause => Encoding.mk clause.tests) same
    have encodings : Encoding.all family.fields = Encoding.all other.fields := by
      rw [clauses, clauses, List.map_map, List.map_map] at tests
      simpa [Function.comp_def, Clause.ofEncoding] using tests
    have handlers := congrArg (fun l => l.head?.map Clause.handler) same
    refine ⟨?_, (Encoding.all_eq_iff _ _).1 encodings⟩
    obtain ⟨encoding, more, first⟩ := List.exists_cons_of_ne_nil (Encoding.all_ne_nil family.fields)
    simp only [clauses, ← encodings, first] at handlers
    exact Option.some.inj handlers
  · rintro ⟨handler, fields⟩
    rw [clauses, clauses, handler, fields.all_eq]

theorem render_eq_iff (family other : Family) : family.render = other.render ↔ family.Agrees other := by
  rw [← clauses_eq_iff]
  constructor
  · intro same
    have read := readChain?_render family
    rw [same, readChain?_render] at read
    exact branches_inj (Option.some.inj read).symm
  · intro same
    have lines : family.lines.map String.toList = other.lines.map String.toList := by
      rw [map_toList_lines, map_toList_lines, same]
    rw [render_eq_join, render_eq_join, List.map_injective_iff.2 (fun _ _ => String.toList_inj.1) lines]

/-- **A chain determines its family, but for the artifact and for how its values are declared.**  Two families have the
same chain exactly if they have the same handler and, field by field, the same name and the same values in the same
order; a bound and a list of the values below it are interchangeable, and nothing else is.  So once the artifact of a
family has been generated, it is up to date for another family of the same artifact exactly if the two agree so. -/
theorem render_determines (family other : Family) :
    (family.render = other.render ↔ family.Agrees other) ∧
    (∀ set set' : ValueSet, set.toList = set'.toList ↔
      set = set' ∨ ∃ bound,
        set = .below bound ∧ set' = .listed ((List.range bound.toNat).map UInt32.ofNat) ∨
        set' = .below bound ∧ set = .listed ((List.range bound.toNat).map UInt32.ofNat)) ∧
    ∀ (directory : String) (workspace : Workspace) (clauses : Nat),
      (workspace.generate directory family).1 = .ok clauses → other.artifact = family.artifact →
        (((workspace.generate directory family).2.check directory other).1 = .ok true ↔ family.Agrees other) := by
  refine ⟨render_eq_iff family other, ValueSet.toList_eq_iff, fun directory workspace clauses succeeds artifact => ?_⟩
  have path : other.artifactPath directory = family.artifactPath directory := congrArg (Path.join directory) artifact
  have read := Workspace.read_of_generate succeeds
  rw [← path] at read
  rw [Workspace.check_of_read read, ← render_eq_iff, ← String.toByteArray_inj, ← bytes_beq_iff, Except.ok.injEq]

theorem isIdentifier_byteword : IsIdentifier "byteword" := by decide +kernel

def swapListed : Family :=
  { swap with
    fields := [⟨"byteword", .listed [0, 1], isIdentifier_byteword,
      show ([0, 1] : List UInt32) ≠ [] ∧ List.Nodup [0, 1] by decide⟩]
    fields_distinct := by decide +kernel
    count_fits := by decide +kernel }

/-- What was generated from a bound is up to date for the list of the values below it. -/
theorem listed_checks_below :
    (((Workspace.linked "made").generate "" swap).2.check "" swapListed).1 = .ok true :=
  ((render_determines swap swapListed).2.2 "" (Workspace.linked "made") 2 (by decide +kernel) rfl).2
    ⟨rfl, .cons ⟨rfl, by decide⟩ .nil⟩

end Family

end DispatchChain
