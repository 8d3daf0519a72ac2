import DispatchChain.Catalogue.ArmThumb
import DispatchChain.Proofs.Acceptance
import Mathlib.Data.List.Forall2
/-!
# Declaring — what becomes of declarations that are accepted

A catalogue is accepted exactly if each of its families is and their artifacts are distinct
(`Catalogue.declare_eq_ok_iff`).  The families that it has then are those declared, in order.
-/
namespace DispatchChain

theorem mapM_eq_ok_iff {α β ε : Type} (f : α → Except ε β) : ∀ (l : List α) (l' : List β),
    l.mapM f = .ok l' ↔ List.Forall₂ (fun a b => f a = .ok b) l l'
  | [], l' => by cases l' <;> simp [pure, Except.pure]
  | a :: l, l' => by
    rw [List.mapM_cons]
    cases first : f a with
    | error error => cases l' <;> simp [bind, Except.bind, first]
    | ok b =>
      have later := mapM_eq_ok_iff f l
      cases rest : l.mapM f with
      | error error => cases l' <;> simp [bind, Except.bind, first, ← later, rest]
      | ok l₁ => cases l' <;> simp [bind, Except.bind, pure, Except.pure, first, ← later, rest]

theorem Family.fields_of_declare {artifact handler : String} {fields : List Field} {family : Family}
    (declared : Family.declare artifact fields handler = .ok family) :
    family.artifact = artifact ∧ family.fields = fields ∧ family.handler = handler := by
  have verdict := Family.declare_verdict artifact fields handler
  rw [declared] at verdict
  cases verdict with
  | accepted _ _ _ _ sameArtifact sameFields sameHandler => exact ⟨sameArtifact, sameFields, sameHandler⟩

theorem FamilyDeclaration.artifact_of_declare {declaration : FamilyDeclaration} {family : Family}
    (declared : declaration.declare = .ok family) : family.artifact = declaration.artifact := by
  unfold FamilyDeclaration.declare at declared
  cases fields : declaration.fields.mapM FieldDeclaration.declare with
  | error error => rw [fields] at declared; cases declared
  | ok fields' =>
    rw [fields] at declared
    exact (Family.fields_of_declare declared).1

namespace Catalogue

variable {declarations : List FamilyDeclaration} {families : List Family}

theorem requireDistinct_eq_ok_iff :
    requireDistinct families = .ok () ↔ (families.map Family.artifact).Nodup := by
  rw [requireDistinct, ← firstRepeat_eq_none_iff]
  split <;> simp_all

/-- **A catalogue is accepted exactly if its families are and write to different artifacts.** -/
theorem declare_eq_ok_iff :
    declare declarations = .ok families ↔
      List.Forall₂ (fun declaration family => declaration.declare = .ok family) declarations families ∧
        (families.map Family.artifact).Nodup := by
  rw [← mapM_eq_ok_iff, ← requireDistinct_eq_ok_iff]
  unfold declare
  cases declarations.mapM FamilyDeclaration.declare with
  | error error => simp [bind, Except.bind]
  | ok families' =>
    have apart : requireDistinct families' = .ok () ∨ ∃ error, requireDistinct families' = .error error := by
      cases requireDistinct families' <;> simp
    rcases apart with distinct | ⟨error, repeated⟩
    · simp only [bind, Except.bind, distinct, pure, Except.pure, Except.ok.injEq]
      constructor
      · rintro rfl
        exact ⟨rfl, distinct⟩
      · exact fun same => same.1
    · simp only [bind, Except.bind, repeated, reduceCtorEq, false_iff]
      rintro ⟨same, distinct⟩
      cases same
      rw [repeated] at distinct
      cases distinct

theorem map_artifact_of_declare (declared : declare declarations = .ok families) :
    families.map Family.artifact = declarations.map FamilyDeclaration.artifact := by
  have each := (declare_eq_ok_iff.1 declared).1
  clear declared
  induction each with
  | nil => rfl
  | cons first _ rest => rw [List.map_cons, List.map_cons, rest, FamilyDeclaration.artifact_of_declare first]

theorem exists_mem_of_declare (declared : declare declarations = .ok families) {declaration : FamilyDeclaration}
    (mem : declaration ∈ declarations) : ∃ family ∈ families, declaration.declare = .ok family := by
  have each := (declare_eq_ok_iff.1 declared).1
  clear declared
  induction each with
  | nil => cases mem
  | cons first _ rest =>
    rcases List.mem_cons.1 mem with rfl | mem
    · exact ⟨_, List.mem_cons_self, first⟩
    · obtain ⟨family, mem', alone⟩ := rest mem
      exact ⟨family, List.mem_cons_of_mem _ mem', alone⟩

theorem exists_armThumb : ∃ families, armThumb = .ok families := by
  have accepted := length_armThumb
  cases declared : armThumb with
  | ok families => exact ⟨families, rfl⟩
  | error error => rw [declared] at accepted; cases accepted

end Catalogue

end DispatchChain
