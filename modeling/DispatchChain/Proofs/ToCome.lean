import DispatchChain.Enumerator
import Mathlib.Data.List.Basic
/-!
# ToCome — an enumerator as the list of what it has still to show

The states of an enumerator are told apart by the items that they have still to show.  A function
`toCome` that lists them is right when reading a state takes the first item off its list
(`Enumerator.Lists`); what a reader is answered can then be read off the list.
-/
namespace DispatchChain

namespace Enumerator

variable {σ α : Type} [Enumerator σ α] {toCome : σ → List α}

/-- `toCome` lists what each state has still to show: a state with nothing to come gives nothing,
and any other gives the first item and leaves the rest to come. -/
structure Lists (toCome : σ → List α) : Prop where
  next?_of_nil : ∀ {s}, toCome s = [] → next? s = none
  next?_of_cons : ∀ {s a l}, toCome s = a :: l → ∃ rest, next? s = some (a, rest) ∧ toCome rest = l

namespace Lists

theorem toCome_of_next?_eq_none (lists : Lists toCome) {s : σ} (ended : next? s = none) : toCome s = [] := by
  cases h : toCome s with
  | nil => rfl
  | cons a l =>
    obtain ⟨rest, next, -⟩ := lists.next?_of_cons h
    rw [ended] at next
    cases next

theorem toCome_of_next?_eq_some (lists : Lists toCome) {s rest : σ} {a : α} (next : next? s = some (a, rest)) :
    toCome s = a :: toCome rest := by
  cases h : toCome s with
  | nil =>
    rw [lists.next?_of_nil h] at next
    cases next
  | cons b l =>
    obtain ⟨rest', next', left⟩ := lists.next?_of_cons h
    rw [next] at next'
    cases next'
    rw [left]

theorem read_fst (lists : Lists toCome) (s : σ) : (read s).1 = (toCome s).head? := by
  cases h : toCome s with
  | nil => rw [read, lists.next?_of_nil h]; rfl
  | cons a l =>
    obtain ⟨rest, next, -⟩ := lists.next?_of_cons h
    rw [read, next]; rfl

theorem toCome_read (lists : Lists toCome) (s : σ) : toCome (read s).2 = (toCome s).tail := by
  cases h : toCome s with
  | nil => rw [read, lists.next?_of_nil h]; exact h
  | cons a l =>
    obtain ⟨rest, next, left⟩ := lists.next?_of_cons h
    rw [read, next]; exact left

/-- **Asking for one item after another shows the list in order, and then nothing for ever.** -/
theorem answerAll_next (lists : Lists toCome) (kept : σ) : ∀ (n : Nat) (s : σ),
    answerAll ⟨s, kept⟩ (List.replicate n .next) = (List.range n).map fun i => .item (toCome s)[i]?
  | 0, _ => rfl
  | n + 1, s => by
    rw [List.replicate_succ, answerAll, List.range_succ_eq_map, List.map_cons, List.map_map]
    simp only [answer, answerAll_next lists kept n, lists.read_fst, lists.toCome_read]
    congr 1
    · rw [List.head?_eq_getElem?]
    · exact List.map_congr_left fun i _ => by rw [List.getElem?_tail]; rfl

end Lists

end Enumerator

end DispatchChain
