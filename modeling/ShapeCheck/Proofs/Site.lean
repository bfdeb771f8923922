import Mathlib.Data.List.Lex
import ShapeCheck.Shape.Basic

/-!
# The order in which a shape is visited

A shape is visited before its parts, and its parts are visited from left to right.  So
the paths of shapes are visited in lexicographic order.  At the end of a path there may
be several things to look at; each of them is a site.
-/

namespace ShapeCheck

/-!
## First places in lists

A pass over a list that stops at the first bad element has found all elements before it
good.
-/

structure FirstAt {α : Type} (good : α → Prop) (as : List α) (k : Nat) (a : α) : Prop where
  place : as[k]? = some a
  earlier : ∀ b ∈ as.take k, good b

namespace FirstAt

variable {α : Type} {good : α → Prop}

theorem head (a : α) (rest : List α) : FirstAt good (a :: rest) 0 a :=
  ⟨rfl, List.forall_mem_nil _⟩

theorem tail {a b : α} {rest : List α} {k : Nat} (hb : good b) (h : FirstAt good rest k a) :
    FirstAt good (b :: rest) (k + 1) a := by
  constructor
  · exact h.place
  · rw [List.take_succ_cons, List.forall_mem_cons]
    exact ⟨hb, h.earlier⟩

theorem exists_of_mem {as : List α} {a : α} (hgood : ∀ b ∈ as, good b) (ha : a ∈ as) :
    ∃ k, FirstAt good as k a := by
  rcases List.mem_iff_getElem?.mp ha with ⟨k, hk⟩
  exact ⟨k, hk, fun b hb => hgood b (List.mem_of_mem_take hb)⟩

theorem exists_bad {as : List α} (h : ¬ ∀ a ∈ as, good a) :
    ∃ k a, FirstAt good as k a ∧ ¬ good a := by
  induction as with
  | nil => exact absurd (List.forall_mem_nil _) h
  | cons a rest ih =>
      by_cases ha : good a
      · have hrest : ¬ ∀ b ∈ rest, good b := fun hrest => h (List.forall_mem_cons.mpr ⟨ha, hrest⟩)
        rcases ih hrest with ⟨k, b, hfirst, hbad⟩
        exact ⟨k + 1, b, hfirst.tail ha, hbad⟩
      · exact ⟨0, a, .head a rest, ha⟩

theorem good_of_lt {as : List α} {k i : Nat} {a b : α} (h : FirstAt good as k a) (hlt : i < k)
    (hb : as[i]? = some b) : good b := by
  apply h.earlier
  apply List.mem_of_getElem? (i := i)
  rw [List.getElem?_take_of_lt hlt, hb]

end FirstAt

namespace Shape

/-!
## Turns

A turn says at the end of which path something is visited, and as which of the things
that are visited there.
-/

inductive Step.Before : Step → Step → Prop
  | member {i k : Nat} (h : i < k) : Before (.member i) (.member k)
  | element {i k : Nat} (h : i < k) : Before (.element i) (.element k)
  | field {i k : Nat} (h : i < k) : Before (.field i) (.field k)

theorem Step.before_member (earlier : Step) (k : Nat) (h : earlier.Before (.member k)) :
    ∃ i < k, earlier = .member i := by
  cases h with
  | member hi => exact ⟨_, hi, rfl⟩

theorem Step.before_element (earlier : Step) (k : Nat) (h : earlier.Before (.element k)) :
    ∃ i < k, earlier = .element i := by
  cases h with
  | element hi => exact ⟨_, hi, rfl⟩

def TurnBefore : Path × Nat → Path × Nat → Prop :=
  Prod.Lex (List.Lex Step.Before) (· < ·)

theorem of_turnBefore_nil {turn : Path × Nat} {n : Nat} (h : TurnBefore turn ([], n)) :
    turn.1 = [] ∧ turn.2 < n := by
  cases h with
  | left _ _ hpath => cases hpath
  | right _ hturn => exact ⟨rfl, hturn⟩

/-- Turns in two parts come in the order of the parts, and turns in one part in the order
that they have there. -/
theorem before_of_turnBefore_cons {step other : Step} {path path' : Path} {m n : Nat}
    (h : TurnBefore (step :: path, m) (other :: path', n)) :
    step.Before other ∨ step = other ∧ TurnBefore (path, m) (path', n) := by
  cases h with
  | left _ _ hpath =>
      cases hpath with
      | rel hstep => exact Or.inl hstep
      | cons hrest => exact Or.inr ⟨rfl, .left _ _ hrest⟩
  | right _ hturn => exact Or.inr ⟨rfl, .right _ hturn⟩

/-!
## Sites
-/

inductive Site where
  /-- how deep the shape at the path lies -/
  | level (path : Path)
  /-- how many members the shape at the path has -/
  | members (path : Path)
  /-- how a field of the shape at the path is named -/
  | name (path : Path) (i : Nat)

namespace Site

def path : Site → Path
  | .level path => path
  | .members path => path
  | .name path _ => path

/-- When a site is visited.  The name of a field has its turn where the shape of the field
stands, and before it. -/
def turn : Site → Path × Nat
  | .name path i => (path ++ [.field i], 0)
  | .level path => (path, 1)
  | .members path => (path, 2)

def Before (site other : Site) : Prop := TurnBefore site.turn other.turn

def under (step : Step) : Site → Site
  | .level path => .level (step :: path)
  | .members path => .members (step :: path)
  | .name path i => .name (step :: path) i

theorem path_under (step : Step) (site : Site) : (site.under step).path = step :: site.path := by
  cases site <;> rfl

theorem turn_under (step : Step) (site : Site) :
    (site.under step).turn = (step :: site.turn.1, site.turn.2) := by
  cases site <;> rfl

theorem path_eq_nil_or_under (site : Site) :
    site.path = [] ∨ ∃ (step : Step) (inner : Site), site = inner.under step := by
  cases site with
  | level path =>
      cases path with
      | nil => exact Or.inl rfl
      | cons step rest => exact Or.inr ⟨step, .level rest, rfl⟩
  | members path =>
      cases path with
      | nil => exact Or.inl rfl
      | cons step rest => exact Or.inr ⟨step, .members rest, rfl⟩
  | name path i =>
      cases path with
      | nil => exact Or.inl rfl
      | cons step rest => exact Or.inr ⟨step, .name rest i, rfl⟩

theorem not_before_level_nil (site : Site) : ¬ site.Before (.level []) := by
  intro h
  have hturn := of_turnBefore_nil h
  cases site <;> simp [turn] at hturn

end Site

end Shape
end ShapeCheck
