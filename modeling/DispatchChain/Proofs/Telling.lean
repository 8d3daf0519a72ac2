import DispatchChain.Proofs.ClauseReading
/-!
# Telling — what the text of a clause tells, whatever its handler is called

The tests of a clause stand before its handler and are read up to the bracket that closes them, so they are told
whatever follows (`Clause.condition_append_inj`).  The arguments repeat the values that were tested.  What is left
between the two is the handler (`Clause.text_tells`), be it an identifier or text that looks like a clause itself.
-/
namespace DispatchChain

open Enumerator (converse)

/-- An encoding that the odometer of some fields shows when it is asked often enough. -/
def Odometer.Shows (fields : List Field) (encoding : Encoding) : Prop :=
  ∃ n, .item (some encoding) ∈ converse (Odometer.start fields) (List.replicate n .next)

theorem Odometer.mem_all_of_shows {fields : List Field} {encoding : Encoding} (shown : Odometer.Shows fields encoding) :
    encoding ∈ Encoding.all fields := by
  obtain ⟨n, mem⟩ := shown
  rw [Odometer.converse_next] at mem
  obtain ⟨i, -, shows⟩ := List.mem_map.1 mem
  simp only [Enumerator.Reply.item.injEq] at shows
  exact List.mem_of_getElem? shows

namespace Clause

variable {clause clause' : Clause}

/-- **A condition tells its tests and where it ends.** -/
theorem condition_append_inj (named : ∀ test ∈ clause.tests, IsIdentifier test.1)
    (named' : ∀ test ∈ clause'.tests, IsIdentifier test.1) {rest rest' : List Char}
    (same : clause.condition.toList ++ ')' :: rest = clause'.condition.toList ++ ')' :: rest') :
    clause.tests = clause'.tests ∧ rest = rest' := by
  have read := readCondition_append named rest
  rw [same, readCondition_append named' rest'] at read
  simp only [Option.some.injEq, Prod.mk.injEq, List.cons.injEq, true_and] at read
  exact ⟨read.1.symm, read.2.symm⟩

theorem condition_eq_one_iff (named : ∀ test ∈ clause.tests, IsIdentifier test.1) :
    clause.condition = "1" ↔ clause.tests = [] := by
  constructor
  · intro one
    have read := readCondition_append named []
    rw [one] at read
    have untested : readCondition ("1".toList ++ [')']) = some ([], [')']) := rfl
    rw [untested] at read
    simp only [Option.some.injEq, Prod.mk.injEq, and_true] at read
    exact read.symm
  · intro untested
    rw [condition, if_pos untested]

theorem text_ofEncoding_eq_iff {encoding encoding' : Encoding} (named : ∀ pair ∈ encoding.pairs, IsIdentifier pair.1)
    (named' : ∀ pair ∈ encoding'.pairs, IsIdentifier pair.1) (handler handler' : String) :
    (ofEncoding handler encoding).text = (ofEncoding handler' encoding').text ↔
      encoding.pairs = encoding'.pairs ∧ handler = handler' := by
  obtain ⟨pairs⟩ := encoding
  obtain ⟨pairs'⟩ := encoding'
  constructor
  · intro same
    have whole := congrArg String.toList same
    rw [toList_text, toList_text] at whole
    have fromCondition := List.append_cancel_left whole
    obtain ⟨tests, rest⟩ := @condition_append_inj (ofEncoding handler ⟨pairs⟩) (ofEncoding handler' ⟨pairs'⟩)
      named named' _ _ fromCondition
    obtain rfl : pairs = pairs' := tests
    -- The arguments are those of the same encoding, so the texts differ in the handler at most.
    exact ⟨rfl, String.toList_inj.1 (List.append_cancel_right (List.append_cancel_left rest))⟩
  · rintro ⟨tests, rfl⟩
    obtain rfl : pairs = pairs' := tests
    rfl

/-- **A clause can be read back, whatever its handler is called.**  Encodings that odometers show, of any fields, have
the same clause exactly if their pairs and the handlers are the same.  The condition is `1` exactly if there are no
pairs.  If the handler is an identifier, the clause is read as the tests of the pairs in field order, the handler, and
the values of the same tests in the same order as arguments. -/
theorem text_tells {fields fields' : List Field} {encoding encoding' : Encoding}
    (shown : Odometer.Shows fields encoding) (shown' : Odometer.Shows fields' encoding') (handler handler' : String) :
    ((ofEncoding handler encoding).text = (ofEncoding handler' encoding').text ↔
      encoding.pairs = encoding'.pairs ∧ handler = handler') ∧
    ((ofEncoding handler encoding).condition = "1" ↔ encoding.pairs = []) ∧
    (IsIdentifier handler →
      read? (ofEncoding handler encoding).text.toList =
        some ⟨encoding.pairs, handler, encoding.pairs.map fun pair => pair.2⟩) := by
  have named := Encoding.isIdentifier_of_mem_all (Odometer.mem_all_of_shows shown)
  have named' := Encoding.isIdentifier_of_mem_all (Odometer.mem_all_of_shows shown')
  refine ⟨text_ofEncoding_eq_iff named named' handler handler', ?_, fun identifier => ?_⟩
  · exact @condition_eq_one_iff (ofEncoding handler encoding) named
  · exact @read?_text (ofEncoding handler encoding) ⟨named, identifier⟩

/-- A handler that is spelled like the end of one clause and the start of another is told apart from both. -/
theorem forged_tells :
    let one : Encoding := ⟨[("byteword", 1)]⟩
    let forged := "f<0>;\x7d\nelse if (byteword == 1) \x7breturn f"
    (ofEncoding forged ⟨[("byteword", 0)]⟩).text ≠ (ofEncoding "f" one).text ∧
      read? (ofEncoding "f" one).text.toList = some ⟨[("byteword", 1)], "f", [1]⟩ := by
  intro one forged
  have shows_zero : Odometer.Shows Family.swap.fields ⟨[("byteword", 0)]⟩ := ⟨1, by decide +kernel⟩
  have shows_one : Odometer.Shows Family.swap.fields one := ⟨2, by decide +kernel⟩
  refine ⟨fun same => ?_, (text_tells shows_one shows_zero "f" forged).2.2 (by decide +kernel)⟩
  exact absurd ((text_tells shows_zero shows_one forged "f").1.1 same).2 (by decide +kernel)

end Clause

end DispatchChain
