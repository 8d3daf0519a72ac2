/-!
# Identifier — names that the generated text may use as they are

The names of fields and handlers appear in the generated chains as variables and templates, so they
are spelled `[A-Za-z_][A-Za-z0-9_]*`.  Only ASCII letters and digits count.
-/
namespace DispatchChain

/-- The characters that may start an identifier: ASCII letters and the underscore. -/
def StartsIdentifier (c : Char) : Prop := c.isAlpha ∨ c = '_'

/-- The characters that may follow in an identifier: those that may start one, and the digits. -/
def ContinuesIdentifier (c : Char) : Prop := c.isAlphanum ∨ c = '_'

instance : DecidablePred StartsIdentifier := fun c =>
  inferInstanceAs (Decidable (c.isAlpha ∨ c = '_'))

instance : DecidablePred ContinuesIdentifier := fun c =>
  inferInstanceAs (Decidable (c.isAlphanum ∨ c = '_'))

/-- Characters that spell an identifier: one that starts it, then any number that continue it. -/
def SpellsIdentifier : List Char → Prop
  | [] => False
  | c :: cs => StartsIdentifier c ∧ ∀ d ∈ cs, ContinuesIdentifier d

instance : DecidablePred SpellsIdentifier
  | [] => inferInstanceAs (Decidable False)
  | c :: cs => @instDecidableAnd (StartsIdentifier c) _ _ (List.decidableBAll ContinuesIdentifier cs)

/-- A name that the generated text may use as it is. -/
def IsIdentifier (name : String) : Prop := SpellsIdentifier name.toList

instance : DecidablePred IsIdentifier := fun name =>
  inferInstanceAs (Decidable (SpellsIdentifier name.toList))

example : IsIdentifier "shift_by_reg" ∧ IsIdentifier "_x" ∧ IsIdentifier "a1" := by decide +kernel

example : ¬ IsIdentifier "" ∧ ¬ IsIdentifier "1a" ∧ ¬ IsIdentifier "a-b" ∧ ¬ IsIdentifier "ä" := by
  decide +kernel

end DispatchChain
