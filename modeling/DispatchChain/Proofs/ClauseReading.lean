import DispatchChain.Clause.Reader
import DispatchChain.Proofs.ChainPieces
import DispatchChain.Proofs.Reading
/-!
# ClauseReading — the clauses of a chain are read back from its text

A clause whose names are identifiers is read back from its written form (`Clause.read?_text`), and
the chain of a family gives back a branch that never holds and the clauses of its encodings, in
order (`Family.readChain?_render`).
-/
namespace DispatchChain

open Text

/-- The visible characters of ASCII, and the space. -/
def IsPlain (c : Char) : Prop := 32 ≤ c.toNat ∧ c.toNat ≤ 126

instance : DecidablePred IsPlain := fun c => inferInstanceAs (Decidable (32 ≤ c.toNat ∧ c.toNat ≤ 126))

def Plain (cs : List Char) : Prop := ∀ c ∈ cs, IsPlain c

instance : DecidablePred Plain := fun cs => List.decidableBAll IsPlain cs

namespace Plain

theorem append {cs ds : List Char} (left : Plain cs) (right : Plain ds) : Plain (cs ++ ds) := fun c mem =>
  (List.mem_append.1 mem).elim (left c) (right c)

theorem intercalate {separator : List Char} (between : Plain separator) : ∀ {l : List (List Char)},
    (∀ cs ∈ l, Plain cs) → Plain (separator.intercalate l)
  | [], _ => by intro c mem; cases mem
  | [cs], all => by
    rw [List.intercalate_singleton]; exact all cs (by simp)
  | cs :: ds :: l, all => by
    rw [List.intercalate_cons_cons]
    have later := intercalate between (fun es mem => all es (List.mem_cons_of_mem cs mem))
    exact ((all cs (by simp)).append between).append later

theorem newline_not_mem {cs : List Char} (plain : Plain cs) : '\n' ∉ cs := fun mem =>
  absurd (plain '\n' mem).1 (by decide)

end Plain

theorem isPlain_of_between {c low high : Char} (above : low.val ≤ c.val) (below : c.val ≤ high.val)
    (first : IsPlain low) (last : IsPlain high) : IsPlain c :=
  ⟨Nat.le_trans first.1 (UInt32.le_iff_toNat_le.1 above), Nat.le_trans (UInt32.le_iff_toNat_le.1 below) last.2⟩

theorem isPlain_of_isAlphanum {c : Char} (h : c.isAlphanum = true) : IsPlain c := by
  rcases Bool.or_eq_true_iff.1 h with alpha | digit
  · rcases Bool.or_eq_true_iff.1 alpha with upper | lower
    · obtain ⟨above, below⟩ := of_decide_eq_true upper
      exact isPlain_of_between above below (by decide) (by decide)
    · obtain ⟨above, below⟩ := Bool.and_eq_true_iff.1 lower
      exact isPlain_of_between (of_decide_eq_true above) (of_decide_eq_true below) (by decide) (by decide)
  · obtain ⟨above, below⟩ := Bool.and_eq_true_iff.1 digit
    exact isPlain_of_between (of_decide_eq_true above) (of_decide_eq_true below) (by decide) (by decide)

theorem IsIdentifier.plain {name : String} (h : IsIdentifier name) : Plain name.toList := by
  intro c mem
  rcases h.continues c mem with alphanum | rfl
  · exact isPlain_of_isAlphanum alphanum
  · decide

theorem plain_repr (n : Nat) : Plain n.repr.toList := by
  intro c mem
  rw [Nat.toList_repr] at mem
  have digit := Nat.isDigit_of_mem_toDigits (by decide) (by decide) mem
  exact isPlain_of_isAlphanum (by rw [Char.isAlphanum, digit, Bool.or_true])

namespace Clause

/-- The names in a clause are identifiers. -/
structure Spelled (clause : Clause) : Prop where
  tests : ∀ test ∈ clause.tests, IsIdentifier test.1
  handler : IsIdentifier clause.handler

theorem toList_testText (test : String × UInt32) :
    (testText test).toList = test.1.toList ++ (" == ".toList ++ test.2.toNat.repr.toList) := by
  rw [testText, String.toList_append, String.toList_append, List.append_assoc]

theorem readTest_append {test : String × UInt32} (h : IsIdentifier test.1) {rest : List Char}
    (stops : Stops (·.isDigit = true) rest) : readTest ((testText test).toList ++ rest) = some (test, rest) := by
  have blank : Stops ContinuesIdentifier (" == ".toList ++ (test.2.toNat.repr.toList ++ rest)) :=
    stops_cons _ (by decide)
  rw [toList_testText, List.append_assoc, List.append_assoc, readTest]
  simp only [readIdentifier_append h blank, Option.bind_eq_bind, Option.bind_some, readLiteral_append,
    readWord_append test.2 stops]
  rfl

theorem toList_condition_of_ne_nil {clause : Clause} (h : clause.tests ≠ []) :
    clause.condition.toList = " && ".toList.intercalate (clause.tests.map fun test => (testText test).toList) := by
  rw [condition, if_neg h, String.toList_intercalate, List.map_map]
  rfl

theorem readCondition_append {clause : Clause} (spelled : ∀ test ∈ clause.tests, IsIdentifier test.1)
    (rest : List Char) : readCondition (clause.condition.toList ++ ')' :: rest) = some (clause.tests, ')' :: rest) := by
  by_cases none_tested : clause.tests = []
  · rw [condition, if_pos none_tested, none_tested]
    rfl
  · have shows : ∀ test ∈ clause.tests, (testText test).toList ≠ [] := fun test _ => by
      rw [toList_testText]; simp
    have reads := readSeparated_intercalate readTest (fun test => (testText test).toList) " && ".toList (')' :: rest)
      rfl clause.tests none_tested shows (fun test mem more follows => readTest_append (spelled test mem) (by
        rcases follows with rfl | ⟨later, rfl⟩ <;> exact stops_cons _ (by decide)))
    -- A test starts with an identifier, which does not start as the condition `1` does.
    have apart : readLiteral ['1'] (" && ".toList.intercalate
        (clause.tests.map fun test => (testText test).toList) ++ ')' :: rest) = none := by
      obtain ⟨test, tests, some_tested⟩ := List.exists_cons_of_ne_nil none_tested
      obtain ⟨c, cs, name, starts⟩ := (spelled test (by simp [some_tested])).exists_cons
      obtain ⟨more, first⟩ := exists_intercalate_cons_eq_append " && ".toList (testText test).toList
        (tests.map fun test => (testText test).toList)
      rw [some_tested, List.map_cons, first, toList_testText, name]
      exact if_neg (by rintro rfl; exact absurd starts (by decide))
    rw [toList_condition_of_ne_nil none_tested, readCondition, apart]
    exact reads

theorem readArguments_append (clause : Clause) (rest : List Char) :
    readArguments (clause.argumentText.toList ++ '>' :: rest) = some (clause.arguments, '>' :: rest) := by
  rw [argumentText, String.toList_intercalate, List.map_map]
  by_cases none_passed : clause.arguments = []
  · rw [none_passed]
    rfl
  · have reads := readSeparated_intercalate readWord (fun value => value.toNat.repr.toList) [','] ('>' :: rest) rfl
      clause.arguments none_passed (fun value _ => by simp) (fun value _ more follows => readWord_append value (by
        rcases follows with rfl | ⟨later, rfl⟩ <;> exact stops_cons _ (by decide)))
    -- An argument starts with a digit, not with the bracket that closes the arguments.
    have apart : ([','].intercalate (clause.arguments.map fun value => value.toNat.repr.toList) ++
        '>' :: rest).head? ≠ some '>' := by
      obtain ⟨value, values, some_passed⟩ := List.exists_cons_of_ne_nil none_passed
      obtain ⟨d, ds, numeral, digit⟩ := exists_toList_repr_cons value.toNat
      obtain ⟨more, first⟩ := exists_intercalate_cons_eq_append [','] value.toNat.repr.toList
        (values.map fun value => value.toNat.repr.toList)
      rw [some_passed, List.map_cons, first, numeral]
      rintro ⟨⟩
      exact absurd digit (by decide)
    exact (if_neg apart).trans reads

theorem toList_text (clause : Clause) : clause.text.toList =
    "else if (".toList ++ (clause.condition.toList ++ ')' :: (" \x7breturn ".toList ++ (clause.handler.toList ++
      ('<' :: (clause.argumentText.toList ++ '>' :: ";\x7d".toList))))) := by
  simp only [text, String.toList_append, List.append_assoc]
  rfl

/-- **A clause is read back from its written form**, if its names are identifiers. -/
theorem read?_text {clause : Clause} (spelled : clause.Spelled) : read? clause.text.toList = some clause := by
  have handler : ∀ more, readIdentifier (clause.handler.toList ++ '<' :: more) = some (clause.handler, '<' :: more) :=
    fun more => readIdentifier_append spelled.handler (stops_cons _ (by decide))
  have middle : ∀ more, readLiteral ") \x7breturn ".toList (')' :: (" \x7breturn ".toList ++ more)) = some more :=
    fun more => readLiteral_append ") \x7breturn ".toList more
  rw [toList_text, read?]
  simp only [readLiteral_append, Option.bind_eq_bind, Option.bind_some, readCondition_append spelled.tests, middle,
    handler]
  have bracket : ∀ more, readLiteral ['<'] ('<' :: more) = some more := readLiteral_append ['<']
  simp only [bracket, Option.bind_some, readArguments_append]
  rfl

theorem plain_condition {clause : Clause} (spelled : clause.Spelled) : Plain clause.condition.toList := by
  by_cases none_tested : clause.tests = []
  · rw [condition, if_pos none_tested]; decide
  · rw [toList_condition_of_ne_nil none_tested]
    refine Plain.intercalate (by decide) fun cs mem => ?_
    obtain ⟨test, tested, rfl⟩ := List.mem_map.1 mem
    rw [toList_testText]
    exact (spelled.tests test tested).plain.append (.append (by decide) (plain_repr _))

theorem plain_argumentText (clause : Clause) : Plain clause.argumentText.toList := by
  rw [argumentText, String.toList_intercalate, List.map_map]
  refine Plain.intercalate (by decide) fun cs mem => ?_
  obtain ⟨value, -, rfl⟩ := List.mem_map.1 mem
  exact plain_repr _

theorem plain_text {clause : Clause} (spelled : clause.Spelled) : Plain clause.text.toList := by
  have opened : Plain "else if (".toList := by decide
  have returned : Plain ") \x7breturn ".toList := by decide
  simp only [text, String.toList_append]
  exact (((((opened.append (plain_condition spelled)).append returned).append spelled.handler.plain).append
    (by decide)).append (plain_argumentText clause)).append (by decide)

theorem readLines?_text : ∀ clauses : List Clause, (∀ clause ∈ clauses, clause.Spelled) →
    readLines? (clauses.map (fun clause => clause.text.toList) ++ [[]]) = some clauses
  | [], _ => rfl
  | clause :: clauses, spelled => by
    have later := readLines?_text clauses (fun c mem => spelled c (List.mem_cons_of_mem clause mem))
    obtain ⟨line, lines, more⟩ := List.exists_cons_of_ne_nil
      (show clauses.map (fun clause => clause.text.toList) ++ [[]] ≠ [] by simp)
    rw [List.map_cons, List.cons_append, more, readLines?, read?_text (spelled clause (by simp)), ← more, later]
    · rfl
    · intro eq; cases eq

end Clause

theorem Encoding.isIdentifier_of_mem_all {fields : List Field} {encoding : Encoding}
    (listed : encoding ∈ Encoding.all fields) : ∀ pair ∈ encoding.pairs, IsIdentifier pair.1 := by
  intro pair mem
  have names := ((Encoding.mem_all_iff fields encoding).1 listed).map_fst
  have named : pair.1 ∈ fields.map Field.name := names ▸ List.mem_map_of_mem mem
  obtain ⟨field, -, name⟩ := List.mem_map.1 named
  rw [← name]
  exact field.name_identifier

namespace Family

theorem splitOn_linePieces : ∀ lines : List String, (∀ line ∈ lines, '\n' ∉ line.toList) →
    (String.join (linePieces lines)).toList.splitOn '\n' = lines.map String.toList ++ [[]]
  | [], _ => rfl
  | line :: lines, apart => by
    have later := splitOn_linePieces lines (fun l mem => apart l (List.mem_cons_of_mem line mem))
    have first : (String.join (linePieces (line :: lines))).toList =
        line.toList ++ '\n' :: (String.join (linePieces lines)).toList := by
      rw [show linePieces (line :: lines) = line :: "\n" :: linePieces lines from rfl, String.join_cons,
        String.join_cons, String.toList_append, String.toList_append]
      rfl
    rw [first, List.splitOn_append_cons_self_of_not_mem (apart line (by simp)), later]
    rfl

/-- The clauses of a family's chain: one for each encoding, in the order of the nested loops. -/
def clauses (family : Family) : List Clause := (Encoding.all family.fields).map (Clause.ofEncoding family.handler)

theorem spelled_of_mem_clauses (family : Family) : ∀ clause ∈ family.clauses, clause.Spelled := by
  intro clause mem
  obtain ⟨encoding, listed, rfl⟩ := List.mem_map.1 mem
  exact ⟨Encoding.isIdentifier_of_mem_all listed, family.handler_identifier⟩

theorem map_toList_lines (family : Family) : family.lines.map String.toList =
    Clause.opening.toList :: family.clauses.map (fun clause => clause.text.toList) := by
  rw [lines, clauses, List.map_cons, List.map_map, List.map_map]
  rfl

theorem plain_of_mem_lines (family : Family) {line : String} (mem : line ∈ family.lines) : Plain line.toList := by
  have listed : line.toList ∈ family.lines.map String.toList := List.mem_map_of_mem mem
  rw [map_toList_lines] at listed
  rcases List.mem_cons.1 listed with eq | listed
  · rw [eq]; decide
  · obtain ⟨clause, mem, eq⟩ := List.mem_map.1 listed
    rw [← eq]
    exact Clause.plain_text (family.spelled_of_mem_clauses clause mem)

/-- **Split at its line ends, the chain of a family is its lines**, and nothing after the last. -/
theorem splitOn_render (family : Family) :
    family.render.toList.splitOn '\n' = family.lines.map String.toList ++ [[]] := by
  rw [render_eq_join]
  exact splitOn_linePieces _ fun _ mem => (family.plain_of_mem_lines mem).newline_not_mem

/-- The branches of a family's chain: one that never holds, and the clauses. -/
def branches (family : Family) : List Branch := .idle .never :: family.clauses.map .returns

theorem readIdle?_opening : Branch.readIdle? Clause.opening.toList = some (.idle .never) := by decide +kernel

/-- **The chain of a family is read back as its branches**, in order. -/
theorem readChain?_render (family : Family) : Branch.readChain? family.render = some family.branches := by
  have clauses := Clause.readLines?_text family.clauses family.spelled_of_mem_clauses
  rw [Branch.readChain?, splitOn_render, map_toList_lines, List.cons_append]
  simp only [readIdle?_opening, clauses]
  rfl

theorem branches_inj {family other : Family} (same : family.branches = other.branches) :
    family.clauses = other.clauses := by
  have clauses := (List.cons.inj same).2
  exact List.map_injective_iff.2 (fun _ _ => Branch.returns.inj) clauses

end Family

end DispatchChain
