import DispatchChain.WordCount
import Mathlib.Algebra.BigOperators.Group.List.Basic
import Mathlib.Algebra.Order.BigOperators.GroupWithZero.List
import Mathlib.Algebra.Order.Ring.Nat
/-!
# WordCount — when words hold a product

The product that words form is the product that no word limits (`eq_product_of_wordProduct?`).  Words form it exactly if
one holds it, since no count is zero and no product on the way is larger (`wordProduct?_eq_some_iff`).  So the order in
which it is formed does not matter (`wordProduct?_perm`).
-/
namespace DispatchChain

theorem product_eq_prod : ∀ counts : List Nat, product counts = counts.prod
  | [] => rfl
  | count :: counts => by rw [product, List.prod_cons, product_eq_prod counts]

theorem product_pos {counts : List Nat} (positive : ∀ count ∈ counts, 0 < count) : 0 < product counts := by
  rw [product_eq_prod]
  exact List.prod_pos positive

theorem product_perm {counts counts' : List Nat} (perm : counts.Perm counts') : product counts = product counts' := by
  rw [product_eq_prod, product_eq_prod, perm.prod_eq]

theorem wordMul?_foldlM_eq_some : ∀ (counts : List Nat) (a n : Nat),
    counts.foldlM wordMul? a = some n → n = a * product counts
  | [], a, n, h => by
    rw [product, Nat.mul_one]; exact (Option.some.inj h).symm
  | count :: counts, a, n, h => by
    rw [List.foldlM_cons] at h
    obtain ⟨b, hb, h⟩ := Option.bind_eq_some_iff.1 h
    rw [wordMul?] at hb
    split at hb
    · cases hb
      rw [wordMul?_foldlM_eq_some counts _ n h, product, Nat.mul_assoc]
    · cases hb

theorem eq_product_of_wordProduct? {counts : List Nat} {n : Nat} (h : wordProduct? counts = some n) :
    n = product counts := by
  rw [wordMul?_foldlM_eq_some counts 1 n h, Nat.one_mul]

theorem foldlM_wordMul?_of_le : ∀ (counts : List Nat) (a : Nat), (∀ count ∈ counts, 0 < count) →
    a * product counts ≤ wordMax → counts.foldlM wordMul? a = some (a * product counts)
  | [], a, _, _ => by rw [product, Nat.mul_one]; rfl
  | count :: counts, a, positive, fits => by
    have later : ∀ c ∈ counts, 0 < c := fun c mem => positive c (List.mem_cons_of_mem count mem)
    rw [product, ← Nat.mul_assoc] at fits ⊢
    -- What is still to be multiplied is not zero, so the product on the way is no larger than the whole.
    have fits_now : a * count ≤ wordMax := Nat.le_trans (Nat.le_mul_of_pos_right _ (product_pos later)) fits
    rw [List.foldlM_cons, wordMul?, if_pos fits_now]
    exact foldlM_wordMul?_of_le counts (a * count) later fits

/-- **Words form a product of positive counts whenever one holds it.** -/
theorem wordProduct?_eq_some {counts : List Nat} (positive : ∀ count ∈ counts, 0 < count)
    (fits : product counts ≤ wordMax) : wordProduct? counts = some (product counts) := by
  have formed := foldlM_wordMul?_of_le counts 1 positive (by rwa [Nat.one_mul])
  rwa [Nat.one_mul] at formed

theorem le_wordMax_of_foldlM : ∀ (counts : List Nat) {a n : Nat}, a ≤ wordMax →
    counts.foldlM wordMul? a = some n → n ≤ wordMax
  | [], _, _, fits, h => Option.some.inj h ▸ fits
  | count :: counts, a, n, _, h => by
    rw [List.foldlM_cons] at h
    obtain ⟨b, hb, h⟩ := Option.bind_eq_some_iff.1 h
    rw [wordMul?] at hb
    split at hb
    · rename_i fits
      cases hb
      exact le_wordMax_of_foldlM counts fits h
    · cases hb

section

variable {counts : List Nat} (positive : ∀ count ∈ counts, 0 < count)

include positive

/-- **Words form a product of positive counts exactly if one holds it.** -/
theorem wordProduct?_eq_some_iff {n : Nat} :
    wordProduct? counts = some n ↔ n = product counts ∧ product counts ≤ wordMax := by
  constructor
  · intro formed
    obtain rfl := eq_product_of_wordProduct? formed
    exact ⟨rfl, le_wordMax_of_foldlM counts (by decide) formed⟩
  · rintro ⟨rfl, fits⟩
    exact wordProduct?_eq_some positive fits

theorem isSome_wordProduct?_iff : (wordProduct? counts).isSome ↔ product counts ≤ wordMax := by
  rw [Option.isSome_iff_exists]
  simp only [wordProduct?_eq_some_iff positive, exists_eq_left]

end

/-- **Words form the same product in whatever order**, as long as no count is zero. -/
theorem wordProduct?_perm {counts counts' : List Nat} (positive : ∀ count ∈ counts, 0 < count)
    (perm : counts.Perm counts') : wordProduct? counts = wordProduct? counts' := by
  have positive' : ∀ count ∈ counts', 0 < count := fun count mem => positive count (perm.mem_iff.2 mem)
  ext n
  rw [wordProduct?_eq_some_iff positive, wordProduct?_eq_some_iff positive', product_perm perm]

end DispatchChain
