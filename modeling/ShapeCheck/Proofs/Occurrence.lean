import ShapeCheck.Module
import ShapeCheck.Proofs.Induction

/-!
# Checks inside checks

A walk through a check with a stack meets the outermost combinators of all checks inside it,
itself included.  So a module imports the names of all checks that occur in it, each once and
in ascending order, and imports nothing only if it declares nothing.
-/

namespace ShapeCheck

namespace Check

/-- A check that is another one or lies inside it, at any depth. -/
inductive Occurs (e : Check) : Check → Prop
  | self : Occurs e e
  | inside {c d : Check} (hd : d ∈ c.children) (h : Occurs e d) : Occurs e c

theorem inductChildren {motive : Check → Prop}
    (children : ∀ c : Check, (∀ d ∈ c.children, motive d) → motive c) (c : Check) :
    motive c := by
  induction c with
  | const value => exact children _ (List.forall_mem_nil _)
  | primitive type => exact children _ (List.forall_mem_nil _)
  | noop => exact children _ (List.forall_mem_nil _)
  | optional inner ih => exact children _ (List.forall_mem_singleton.mpr ih)
  | union members ih => exact children _ ih
  | intersection members ih => exact children _ ih
  | tuple elements ih => exact children _ ih
  | array element ih => exact children _ (List.forall_mem_singleton.mpr ih)
  | object entries ih => exact children _ (List.forall_mem_map.mpr ih)

theorem occurs_iff {e c : Check} : Occurs e c ↔ e = c ∨ ∃ d ∈ c.children, Occurs e d := by
  constructor
  · intro h
    cases h with
    | self => exact Or.inl rfl
    | inside hd h => exact Or.inr ⟨_, hd, h⟩
  · rintro (rfl | ⟨d, hd, h⟩)
    · exact .self
    · exact .inside hd h

/-- The walk meets what occurs in the checks on its stack, whatever the stack is. -/
theorem mem_met_iff {stack : List Check} {k : Combinator} :
    k ∈ met stack ↔ ∃ c ∈ stack, ∃ e, Occurs e c ∧ e.combinator = k := by
  fun_induction met stack with
  | case1 => simp
  | case2 c stack ih =>
      rw [List.mem_cons, ih]
      constructor
      · rintro (rfl | ⟨d, hd, e, he, rfl⟩)
        · exact ⟨c, List.mem_cons_self, c, .self, rfl⟩
        · rcases List.mem_append.mp hd with hd | hd
          · exact ⟨c, List.mem_cons_self, e, .inside (List.mem_reverse.mp hd) he, rfl⟩
          · exact ⟨d, List.mem_cons_of_mem c hd, e, he, rfl⟩
      · rintro ⟨d, hd, e, he, rfl⟩
        rcases List.mem_cons.mp hd with rfl | hd
        · rcases occurs_iff.mp he with rfl | ⟨part, hpart, he⟩
          · exact Or.inl rfl
          · exact Or.inr
              ⟨part, List.mem_append_left _ (List.mem_reverse.mpr hpart), e, he, rfl⟩
        · exact Or.inr ⟨d, List.mem_append_right _ hd, e, he, rfl⟩

theorem mem_combinators_iff {c : Check} {k : Combinator} :
    k ∈ c.combinators ↔ ∃ e, Occurs e c ∧ e.combinator = k := by
  rw [combinators, Combinator.mem_setOf_iff, mem_met_iff]
  constructor
  · rintro ⟨d, hd, hoccurs⟩
    cases List.mem_singleton.mp hd
    exact hoccurs
  · intro hoccurs
    exact ⟨c, List.mem_singleton_self c, hoccurs⟩

end Check

namespace Module

theorem mem_importedNames_iff {decls : List Compiled} {name : String} :
    name ∈ importedNames decls ↔
      ∃ d ∈ decls, ∃ e, Check.Occurs e d.check ∧ e.combinator.name = name := by
  rw [importedNames, List.mem_mergeSort, List.mem_map]
  constructor
  · rintro ⟨k, hk, rfl⟩
    rcases List.mem_flatMap.mp (Combinator.mem_setOf_iff.mp hk) with ⟨d, hd, hk⟩
    rcases Check.mem_combinators_iff.mp hk with ⟨e, he, rfl⟩
    exact ⟨d, hd, e, he, rfl⟩
  · rintro ⟨d, hd, e, he, rfl⟩
    have hk := Check.mem_combinators_iff.mpr ⟨e, he, rfl⟩
    exact ⟨_, Combinator.mem_setOf_iff.mpr (List.mem_flatMap.mpr ⟨d, hd, hk⟩), rfl⟩

/-- Each check has an outermost combinator, so only an empty module imports nothing. -/
theorem importedNames_eq_nil_iff {decls : List Compiled} :
    importedNames decls = [] ↔ decls = [] := by
  rw [List.eq_nil_iff_forall_not_mem]
  constructor
  · intro h
    cases decls with
    | nil => rfl
    | cons d rest =>
        exact absurd (mem_importedNames_iff.mpr ⟨d, List.mem_cons_self, d.check, .self, rfl⟩)
          (h _)
  · rintro rfl name hname
    rcases mem_importedNames_iff.mp hname with ⟨d, hd, _⟩
    cases hd

/-- Names are sorted, and as those of combinators differ, no name comes twice. -/
theorem importedNames_ascending (decls : List Compiled) :
    (importedNames decls).Pairwise (· < ·) := by
  have hnames : (Combinator.all.map Combinator.name).Nodup := by decide
  have hdistinct : (importedNames decls).Nodup :=
    (List.mergeSort_perm _ _).nodup_iff.mpr
      (hnames.sublist (List.filter_sublist.map Combinator.name))
  have hsorted : (importedNames decls).Pairwise (fun a b => decide (a ≤ b) = true) := by
    apply List.pairwise_mergeSort
    · intro a b c hab hbc
      exact decide_eq_true (String.le_trans (of_decide_eq_true hab) (of_decide_eq_true hbc))
    · intro a b
      rw [Bool.or_eq_true, decide_eq_true_iff, decide_eq_true_iff]
      exact String.le_total a b
  refine (hsorted.and hdistinct).imp ?_
  rintro a b ⟨hle, hne⟩
  exact String.not_le.mp (fun hge => hne (String.le_antisymm (of_decide_eq_true hle) hge))

end Module

end ShapeCheck
