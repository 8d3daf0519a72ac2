import DispatchChain.Family.Signature
import DispatchChain.Proofs.Declaring
import DispatchChain.Proofs.FieldAcceptance
import DispatchChain.Proofs.Reading
import DispatchChain.Proofs.Unambiguity
/-!
# SignatureReading — the text of a family tells its handler and its fields

A field is read back from its text as it was declared (`Signature.readField_append`), and the text of a family gives
back its handler and the declarations of its fields in order (`Signature.read?_text`).  To declare these again gives the
same fields, so no two families that differ in them have the same text (`Family.text_tells_signature`).
-/
namespace DispatchChain

open Text

/-- The field as signatures show it, from its declaration. -/
def FieldDeclaration.text : FieldDeclaration → String
  | below name bound => name ++ ":" ++ (ValueSet.below bound).text
  | listed name values => name ++ ":" ++ (ValueSet.listed values).text

namespace Field

theorem text_declaration (field : Field) : field.declaration.text = field.text := by
  obtain ⟨name, values, _, _⟩ := field
  cases values <;> rfl

/-- **The declaration of a field declares it.** -/
theorem declare_declaration (field : Field) : field.declaration.declare = .ok field := by
  obtain ⟨name, values, _, _⟩ := field
  cases values with
  | below bound => exact below_eq_ok_iff.2 ⟨rfl, rfl⟩
  | listed values => exact listed_eq_ok_iff.2 ⟨rfl, rfl⟩

theorem declaration_inj {field other : Field} (same : field.declaration = other.declaration) : field = other := by
  have declared := field.declare_declaration
  rw [same, other.declare_declaration] at declared
  exact (Except.ok.inj declared).symm

theorem mapM_declaration (fields : List Field) :
    (fields.map declaration).mapM FieldDeclaration.declare = .ok fields := by
  rw [mapM_eq_ok_iff, List.forall₂_map_left_iff, List.forall₂_same]
  exact fun field _ => field.declare_declaration

theorem toList_text (field : Field) : field.text.toList = field.name.toList ++ ':' :: field.values.text.toList := by
  rw [text, String.toList_append, String.toList_append, List.append_assoc]
  rfl

theorem exists_toList_text_cons (field : Field) : ∃ c cs, field.text.toList = c :: cs ∧ StartsIdentifier c := by
  obtain ⟨c, cs, name, starts⟩ := field.name_identifier.exists_cons
  exact ⟨c, _, by rw [toList_text, name, List.cons_append], starts⟩

end Field

namespace Signature

/-- **A field is read back from its text**, before a text that does not go on with a digit. -/
theorem readField_append (field : Field) {rest : List Char} (stops : Stops (·.isDigit = true) rest) :
    readField (field.text.toList ++ rest) = some (field.declaration, rest) := by
  obtain ⟨name, values, named, lawful⟩ := field
  have colon : ∀ more, readIdentifier (name.toList ++ ':' :: more) = some (name, ':' :: more) :=
    fun more => readIdentifier_append named (stops_cons _ (by decide))
  have passed : ∀ more, readLiteral [':'] (':' :: more) = some more := readLiteral_append [':']
  rw [Field.toList_text, List.append_assoc, List.cons_append, readField]
  simp only [colon, Option.bind_eq_bind, Option.bind_some, passed]
  cases values with
  | below bound =>
    -- A bound starts with a digit, not with the brace that opens a list.
    have apart : readLiteral ['\x7b'] ((ValueSet.below bound).text.toList ++ rest) = none := by
      obtain ⟨d, ds, numeral, digit⟩ := exists_toList_repr_cons bound.toNat
      rw [ValueSet.text, numeral]
      exact if_neg (by rintro rfl; exact absurd digit (by decide))
    simp only [apart]
    rw [ValueSet.text, readWord_append bound stops]
    rfl
  | listed values =>
    have spelled : (ValueSet.listed values).text.toList ++ rest =
        '\x7b' :: ([','].intercalate (values.map fun value => value.toNat.repr.toList) ++ '\x7d' :: rest) := by
      rw [ValueSet.text, String.toList_append, String.toList_append, String.toList_intercalate, List.map_map,
        List.append_assoc, List.append_assoc]
      rfl
    have opened : ∀ more, readLiteral ['\x7b'] ('\x7b' :: more) = some more := readLiteral_append ['\x7b']
    have closed : ∀ more, readLiteral ['\x7d'] ('\x7d' :: more) = some more := readLiteral_append ['\x7d']
    have reads := readSeparated_intercalate readWord (fun value => value.toNat.repr.toList) [','] ('\x7d' :: rest) rfl
      values lawful.1 (fun value _ => by simp) (fun value _ more follows => readWord_append value (by
        rcases follows with rfl | ⟨later, rfl⟩ <;> exact stops_cons _ (by decide)))
    simp only [spelled, opened, reads, Option.bind_some, closed]
    rfl

theorem readFields_append (fields : List Field) (rest : List Char) :
    readFields ((", ".intercalate (fields.map Field.text)).toList ++ ')' :: rest) =
      some (fields.map Field.declaration, ')' :: rest) := by
  rw [String.toList_intercalate, List.map_map]
  by_cases fieldless : fields = []
  · subst fieldless
    rfl
  · have printed : fields.map (String.toList ∘ Field.text) =
        (fields.map Field.declaration).map fun declaration => declaration.text.toList := by
      rw [List.map_map]
      exact List.map_congr_left fun field _ => congrArg String.toList field.text_declaration.symm
    -- A field starts with an identifier, not with the bracket that closes the fields.
    have apart :
        (", ".toList.intercalate (fields.map (String.toList ∘ Field.text)) ++ ')' :: rest).head? ≠ some ')' := by
      obtain ⟨field, others, some_field⟩ := List.exists_cons_of_ne_nil fieldless
      obtain ⟨c, cs, spelled, starts⟩ := field.exists_toList_text_cons
      obtain ⟨more, first⟩ := exists_intercalate_cons_eq_append ", ".toList field.text.toList
        (others.map (String.toList ∘ Field.text))
      rw [some_field, List.map_cons, Function.comp_apply, first, spelled]
      rintro ⟨⟩
      exact absurd starts (by decide)
    rw [readFields, if_neg apart, printed]
    refine readSeparated_intercalate readField (fun declaration => declaration.text.toList) ", ".toList
      (')' :: rest) rfl
      (fields.map Field.declaration) (mt List.map_eq_nil_iff.1 fieldless) (fun declaration mem => ?_)
      (fun declaration mem more follows => ?_)
    · obtain ⟨field, -, rfl⟩ := List.mem_map.1 mem
      obtain ⟨c, cs, spelled, -⟩ := field.exists_toList_text_cons
      rw [field.text_declaration, spelled]
      exact List.cons_ne_nil c cs
    · obtain ⟨field, -, rfl⟩ := List.mem_map.1 mem
      rw [field.text_declaration]
      refine readField_append field ?_
      rcases follows with rfl | ⟨later, rfl⟩ <;> exact stops_cons _ (by decide)

/-- **A family is read back from its text**: its handler, and its fields as they were declared. -/
theorem read?_text (family : Family) : read? family.text = some family.signature := by
  have spelled : family.text.toList = family.handler.toList ++ '(' ::
      ((", ".intercalate (family.fields.map Field.text)).toList ++ [')']) := by
    simp only [Family.text, String.toList_append, List.append_assoc]
    rfl
  have handler : ∀ more, readIdentifier (family.handler.toList ++ '(' :: more) = some (family.handler, '(' :: more) :=
    fun more => readIdentifier_append family.handler_identifier (stops_cons _ (by decide))
  have opened : ∀ more, readLiteral ['('] ('(' :: more) = some more := readLiteral_append ['(']
  rw [read?, spelled]
  simp only [handler, Option.bind_eq_bind, Option.bind_some, opened, readFields_append]
  rfl

end Signature

namespace Field

/-- **Fields have the same text exactly if they are the same.** -/
theorem text_eq_iff (field other : Field) : field.text = other.text ↔ field = other := by
  constructor
  · intro same
    have read := Signature.readField_append field stops_nil
    rw [same, Signature.readField_append other stops_nil] at read
    exact declaration_inj (congrArg Prod.fst (Option.some.inj read)).symm
  · rintro rfl
    rfl

end Field

namespace Family

theorem text_eq_iff (family other : Family) :
    family.text = other.text ↔ family.handler = other.handler ∧ family.fields = other.fields := by
  constructor
  · intro same
    have read := Signature.read?_text family
    rw [same, Signature.read?_text other] at read
    have signatures : other.signature = family.signature := Option.some.inj read
    have declarations : other.fields.map Field.declaration = family.fields.map Field.declaration :=
      congrArg Signature.fields signatures
    have declared := Field.mapM_declaration family.fields
    rw [← declarations, Field.mapM_declaration other.fields] at declared
    exact ⟨(congrArg Signature.handler signatures).symm, (Except.ok.inj declared).symm⟩
  · rintro ⟨handler, fields⟩
    rw [text, text, handler, fields]

/-- **The text of a family tells its handler and its fields.**  Two families have the same text exactly if they have the
same handler and the same fields in the same order.  The text is read back as the handler and the declarations of the
fields, also if there are none, and to declare these again gives the fields.  Two fields have the same text exactly if
they have the same name and the same set of values; so a bound is never shown as a list, whatever the list holds. -/
theorem text_tells_signature (family other : Family) :
    (family.text = other.text ↔ family.handler = other.handler ∧ family.fields = other.fields) ∧
    (Signature.read? family.text = some ⟨family.handler, family.fields.map Field.declaration⟩ ∧
      (family.fields.map Field.declaration).mapM FieldDeclaration.declare = .ok family.fields) ∧
    ∀ field field' : Field,
      (field.text = field'.text ↔ field = field') ∧
      (field = field' ↔ field.name = field'.name ∧ field.values = field'.values) ∧
      ∀ bound values, field.values = .below bound → field'.values = .listed values → field.text ≠ field'.text := by
  refine ⟨text_eq_iff family other, ⟨Signature.read?_text family, Field.mapM_declaration family.fields⟩,
    fun field field' => ⟨Field.text_eq_iff field field', ?_, fun bound values below listed same => ?_⟩⟩
  · constructor
    · rintro rfl
      exact ⟨rfl, rfl⟩
    · obtain ⟨name, values, _, _⟩ := field
      rintro ⟨rfl, rfl⟩
      rfl
  · rw [(Field.text_eq_iff field field').1 same, listed] at below
    cases below

/-- Two families with the same chain are shown apart, and each is read back as it was declared. -/
theorem swap_text_tells :
    swap.text ≠ swapListed.text ∧
      Signature.read? "arm_swp(byteword:2)" = some ⟨"arm_swp", [.below "byteword" 2]⟩ ∧
      Signature.read? "arm_swp(byteword:\x7b0,1\x7d)" = some ⟨"arm_swp", [.listed "byteword" [0, 1]]⟩ :=
  ⟨mt (text_tells_signature swap swapListed).1.1 (by decide +kernel), (text_tells_signature swap swap).2.1.1,
    (text_tells_signature swapListed swap).2.1.1⟩

end Family

end DispatchChain
