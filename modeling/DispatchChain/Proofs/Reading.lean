import DispatchChain.Text.Reading
import Mathlib.Data.List.TakeWhile
/-!
# Reading — a token that was written is read back

Each reader, set before a token as it is written and a text that cannot continue it, reads the token
and leaves the text.
-/
namespace DispatchChain

theorem StartsIdentifier.continues {c : Char} : StartsIdentifier c → ContinuesIdentifier c
  | .inl alpha => .inl (by rw [Char.isAlphanum, alpha, Bool.true_or])
  | .inr underscore => .inr underscore

theorem IsIdentifier.exists_cons {name : String} (h : IsIdentifier name) :
    ∃ c cs, name.toList = c :: cs ∧ StartsIdentifier c := by
  unfold IsIdentifier at h
  cases spelling : name.toList with
  | nil => rw [spelling] at h; cases h
  | cons c cs =>
    rw [spelling] at h
    exact ⟨c, cs, rfl, h.1⟩

theorem IsIdentifier.continues {name : String} (h : IsIdentifier name) :
    ∀ c ∈ name.toList, ContinuesIdentifier c := by
  unfold IsIdentifier at h
  cases spelling : name.toList with
  | nil => rw [spelling] at h; cases h
  | cons c cs =>
    rw [spelling] at h
    intro d mem
    rcases List.mem_cons.1 mem with rfl | mem
    · exact h.1.continues
    · exact h.2 d mem

namespace Text

/-- A text whose first character, if there is one, is not of a class. -/
def Stops (P : Char → Prop) (rest : List Char) : Prop := ∀ c ∈ rest.head?, ¬ P c

theorem stops_nil {P : Char → Prop} : Stops P [] := by
  rintro d ⟨⟩

theorem stops_cons {P : Char → Prop} {c : Char} (rest : List Char) (h : ¬ P c) : Stops P (c :: rest) := by
  rintro d ⟨⟩; exact h

theorem takeWhile_append_of_stops {p : Char → Bool} {cs rest : List Char} (all : ∀ c ∈ cs, p c)
    (stops : Stops (p · = true) rest) : (cs ++ rest).takeWhile p = cs ∧ (cs ++ rest).dropWhile p = rest := by
  rw [List.takeWhile_append_of_pos all, List.dropWhile_append_of_pos all]
  cases rest with
  | nil => exact ⟨List.append_nil cs, rfl⟩
  | cons c rest =>
    have stop : ¬ p c = true := stops c rfl
    rw [List.takeWhile_cons_of_neg stop, List.dropWhile_cons_of_neg stop]
    exact ⟨List.append_nil cs, rfl⟩

theorem readLiteral_append : ∀ text rest : List Char, readLiteral text (text ++ rest) = some rest
  | [], _ => rfl
  | t :: text, rest => by
    rw [List.cons_append, readLiteral, if_pos rfl]
    exact readLiteral_append text rest

/-- **An identifier is read back** before a text that cannot continue it. -/
theorem readIdentifier_append {name : String} (h : IsIdentifier name) {rest : List Char}
    (stops : Stops ContinuesIdentifier rest) : readIdentifier (name.toList ++ rest) = some (name, rest) := by
  have all : ∀ c ∈ name.toList, (decide <| ContinuesIdentifier c) = true := fun c mem =>
    decide_eq_true (h.continues c mem)
  have stops' : Stops (fun c => decide (ContinuesIdentifier c) = true) rest := fun c mem =>
    mt of_decide_eq_true (stops c mem)
  obtain ⟨token, left⟩ := takeWhile_append_of_stops all stops'
  rw [readIdentifier]
  simp only [token, left]
  rw [if_pos (show SpellsIdentifier name.toList from h), String.ofList_toList]

/-- **A word in decimal is read back** before a text that does not start with a digit. -/
theorem readWord_append (value : UInt32) {rest : List Char} (stops : Stops (·.isDigit = true) rest) :
    readWord (value.toNat.repr.toList ++ rest) = some (value, rest) := by
  have all : ∀ c ∈ Nat.toDigits 10 value.toNat, c.isDigit = true := fun c mem =>
    Nat.isDigit_of_mem_toDigits (by decide) (by decide) mem
  obtain ⟨token, left⟩ := takeWhile_append_of_stops all stops
  rw [Nat.toList_repr, readWord]
  simp only [token, left, Nat.ofDigitChars_ten_toDigits]
  rw [if_pos ⟨trivial, value.toNat_lt⟩, UInt32.ofNat_toNat]

theorem exists_toList_repr_cons (n : Nat) : ∃ d ds, n.repr.toList = d :: ds ∧ d.isDigit = true := by
  obtain ⟨d, ds, numeral⟩ := List.exists_cons_of_ne_nil (show Nat.toDigits 10 n ≠ [] by simp)
  have digit : d.isDigit = true := Nat.isDigit_of_mem_toDigits (by decide) (by decide)
    (show d ∈ Nat.toDigits 10 n by simp [numeral])
  exact ⟨d, ds, by rw [Nat.toList_repr, numeral], digit⟩

theorem exists_intercalate_cons_eq_append {α : Type} (separator a : List α) (l : List (List α)) :
    ∃ more, separator.intercalate (a :: l) = a ++ more := by
  cases l with
  | nil => exact ⟨[], by rw [List.intercalate_singleton, List.append_nil]⟩
  | cons b l => exact ⟨_, by rw [List.intercalate_cons_cons, List.append_assoc]⟩

section Separated

variable {α : Type} (read : List Char → Option (α × List Char)) (print : α → List Char)
  (separator rest : List Char)

theorem length_le_length_intercalate : ∀ items : List α, (∀ a ∈ items, print a ≠ []) →
    items.length ≤ (separator.intercalate (items.map print)).length
  | [], _ => Nat.zero_le _
  | [a], shows => by
    rw [List.map_singleton, List.intercalate_singleton]
    exact List.length_pos_iff.2 (shows a (by simp))
  | a :: b :: items, shows => by
    have later := length_le_length_intercalate (b :: items) (fun c mem => shows c (List.mem_cons_of_mem a mem))
    have first := List.length_pos_iff.2 (shows a (by simp))
    rw [List.map_cons] at later
    rw [List.map_cons, List.map_cons, List.intercalate_cons_cons]
    simp only [List.length_append, List.length_cons] at later ⊢
    omega

theorem readSeparated_of_length_le (stop : readLiteral separator rest = none) :
    ∀ (items : List α) (fuel : Nat), items ≠ [] → items.length ≤ fuel →
      (∀ a ∈ items, ∀ more, (more = rest ∨ ∃ later, more = separator ++ later) →
        read (print a ++ more) = some (a, more)) →
      readSeparated read separator fuel (separator.intercalate (items.map print) ++ rest) = some (items, rest)
  | [], _, nonempty, _, _ => absurd rfl nonempty
  | _ :: _, 0, _, enough, _ => absurd enough (Nat.not_succ_le_zero _)
  | [a], fuel + 1, _, _, reads => by
    rw [List.map_singleton, List.intercalate_singleton, readSeparated, reads a (by simp) rest (.inl rfl)]
    simp [stop]
  | a :: b :: items, fuel + 1, _, enough, reads => by
    have later := readSeparated_of_length_le stop (b :: items) fuel (by simp) (Nat.le_of_succ_le_succ enough)
      (fun c mem => reads c (List.mem_cons_of_mem a mem))
    rw [List.map_cons, List.map_cons, List.intercalate_cons_cons, List.append_assoc, List.append_assoc, readSeparated,
      reads a List.mem_cons_self _ (.inr ⟨_, rfl⟩)]
    simp only [Option.bind_eq_bind, Option.bind_some, readLiteral_append]
    rw [← List.map_cons, later]
    rfl

/-- **Items written with a separator between them are read back**, if each is read back before the
separator and before what follows, and the separator does not follow. -/
theorem readSeparated_intercalate (stop : readLiteral separator rest = none) (items : List α) (nonempty : items ≠ [])
    (shows : ∀ a ∈ items, print a ≠ [])
    (reads : ∀ a ∈ items, ∀ more, (more = rest ∨ ∃ later, more = separator ++ later) →
      read (print a ++ more) = some (a, more)) :
    readSeparated read separator (separator.intercalate (items.map print) ++ rest).length
      (separator.intercalate (items.map print) ++ rest) = some (items, rest) := by
  refine readSeparated_of_length_le read print separator rest stop items _ nonempty ?_ reads
  rw [List.length_append]
  exact Nat.le_trans (length_le_length_intercalate print separator items shows) (Nat.le_add_right _ _)

end Separated

end Text

end DispatchChain
