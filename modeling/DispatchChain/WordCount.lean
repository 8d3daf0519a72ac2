/-!
# WordCount — counts that fit a machine word

Encodings are counted in 64-bit words.  A product of counts is formed from left to right and given
up as soon as a word cannot hold it; `product` is the product that no word limits.
-/
namespace DispatchChain

def product : List Nat → Nat
  | [] => 1
  | count :: counts => count * product counts

def wordMax : Nat := 0xFFFFFFFFFFFFFFFF

/-- The product of two counts, if a word holds it. -/
def wordMul? (a b : Nat) : Option Nat := if a * b ≤ wordMax then some (a * b) else none

/-- The product of counts, if words hold it and every product on the way. -/
def wordProduct? (counts : List Nat) : Option Nat := counts.foldlM wordMul? 1

example : wordProduct? [0x100000000, 0xFFFFFFFF] = some 0xFFFFFFFF00000000 ∧
    wordProduct? [0x100000000, 0x100000000] = none := by
  decide

end DispatchChain
