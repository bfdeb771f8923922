import ShapeCheck.Proofs.Entries
import ShapeCheck.Proofs.Induction
import ShapeCheck.Proofs.Verdict

/-!
# Checks that differ in equal numbers only

Two checks are alike if they are the same tree up to number literals that are equal
as numbers or both no number.  Alike checks accept the same values.
-/

namespace ShapeCheck

/-- Two doubles that are both no number, or the same number. -/
def Double.alike (x y : Double) : Bool := (x.isNaN && y.isNaN) || x.same y

def Literal.alike : Literal → Literal → Bool
  | .number x, .number y => x.alike y
  | a, b => decide (a = b)

namespace Check

mutual
/-- The same check up to alike literals. -/
def alike : Check → Check → Bool
  | .const a, .const b => a.alike b
  | .primitive type, .primitive other => decide (type = other)
  | .noop, .noop => true
  | .optional c, .optional d => c.alike d
  | .union cs, .union ds => alikeAll cs ds
  | .intersection cs, .intersection ds => alikeAll cs ds
  | .tuple cs, .tuple ds => alikeAll cs ds
  | .array c, .array d => c.alike d
  | .object entries, .object others => alikeEntries entries others
  | _, _ => false
termination_by structural c => c

def alikeAll : List Check → List Check → Bool
  | [], [] => true
  | c :: rest, d :: others => c.alike d && alikeAll rest others
  | _, _ => false
termination_by structural cs => cs

def alikeEntries : List (String × Check) → List (String × Check) → Bool
  | [], [] => true
  | (key, c) :: rest, (other, d) :: others =>
      key == other && c.alike d && alikeEntries rest others
  | _, _ => false
termination_by structural entries => entries
end

theorem alikeAll_iff {cs ds : List Check} :
    alikeAll cs ds = true ↔ List.Forall₂ (fun c d => c.alike d = true) cs ds := by
  induction cs generalizing ds with
  | nil =>
      cases ds with
      | nil => exact ⟨fun _ => .nil, fun _ => rfl⟩
      | cons d ds => exact ⟨nofun, nofun⟩
  | cons c cs ih =>
      cases ds with
      | nil => exact ⟨nofun, nofun⟩
      | cons d ds =>
          rw [alikeAll, Bool.and_eq_true, ih, List.forall₂_cons]

theorem alikeEntries_iff {entries others : List (String × Check)} :
    alikeEntries entries others = true ↔
      Entries.Related (fun c d => c.alike d = true) entries others := by
  induction entries generalizing others with
  | nil =>
      cases others with
      | nil => exact ⟨fun _ => .nil, fun _ => rfl⟩
      | cons f others => exact ⟨nofun, nofun⟩
  | cons e entries ih =>
      cases others with
      | nil => exact ⟨nofun, nofun⟩
      | cons f others =>
          rw [alikeEntries, Bool.and_eq_true, Bool.and_eq_true, beq_iff_eq, ih,
            Entries.related_cons_iff]

section Induction

variable {motive : Check → Check → Prop}

theorem forall₂_of_alikeAll {cs ds : List Check}
    (h : ∀ c ∈ cs, ∀ d, c.alike d = true → motive c d) (halike : alikeAll cs ds = true) :
    List.Forall₂ motive cs ds := by
  rw [alikeAll_iff] at halike
  induction halike with
  | nil => exact .nil
  | cons hcd _ ih =>
      rcases List.forall_mem_cons.mp h with ⟨hc, hcs⟩
      exact .cons (hc _ hcd) (ih hcs)

theorem related_of_alikeEntries {entries others : List (String × Check)}
    (h : ∀ e ∈ entries, ∀ d, e.2.alike d = true → motive e.2 d)
    (halike : alikeEntries entries others = true) : Entries.Related motive entries others := by
  rw [alikeEntries_iff] at halike
  induction halike with
  | nil => exact .nil
  | cons hef _ ih =>
      rcases List.forall_mem_cons.mp h with ⟨he, hentries⟩
      exact .cons ⟨hef.1, he _ hef.2⟩ (ih hentries)

theorem alike_induct
    (const : ∀ {a b : Literal}, a.alike b = true → motive (.const a) (.const b))
    (primitive : ∀ type, motive (.primitive type) (.primitive type))
    (noop : motive .noop .noop)
    (optional : ∀ {c d}, motive c d → motive (.optional c) (.optional d))
    (union : ∀ {cs ds}, List.Forall₂ motive cs ds → motive (.union cs) (.union ds))
    (intersection : ∀ {cs ds},
      List.Forall₂ motive cs ds → motive (.intersection cs) (.intersection ds))
    (tuple : ∀ {cs ds}, List.Forall₂ motive cs ds → motive (.tuple cs) (.tuple ds))
    (array : ∀ {c d}, motive c d → motive (.array c) (.array d))
    (object : ∀ {entries others},
      Entries.Related motive entries others → motive (.object entries) (.object others))
    {c d : Check} (h : c.alike d = true) : motive c d := by
  induction c generalizing d with
  | const a =>
      cases d with
      | const b => exact const h
      | _ => cases h
  | primitive type =>
      cases d with
      | primitive other =>
          rw [← of_decide_eq_true h]
          exact primitive type
      | _ => cases h
  | noop =>
      cases d with
      | noop => exact noop
      | _ => cases h
  | optional c ih =>
      cases d with
      | optional d => exact optional (ih h)
      | _ => cases h
  | union cs ih =>
      cases d with
      | union ds => exact union (forall₂_of_alikeAll (fun c hc d => ih c hc) h)
      | _ => cases h
  | intersection cs ih =>
      cases d with
      | intersection ds => exact intersection (forall₂_of_alikeAll (fun c hc d => ih c hc) h)
      | _ => cases h
  | tuple cs ih =>
      cases d with
      | tuple ds => exact tuple (forall₂_of_alikeAll (fun c hc d => ih c hc) h)
      | _ => cases h
  | array c ih =>
      cases d with
      | array d => exact array (ih h)
      | _ => cases h
  | object entries ih =>
      cases d with
      | object others => exact object (related_of_alikeEntries (fun e he d => ih e he) h)
      | _ => cases h

end Induction

end Check

/-!
## Predicates that agree
-/

namespace Predicate

/-- Two predicates that accept the same values. -/
def Agree (p q : Predicate) : Prop := ∀ v, p.test v = q.test v

theorem agree_optional {p q : Predicate} (h : Agree p q) : Agree (optional p) (optional q) := by
  intro v
  rw [test_optional, test_optional, h v]

theorem agree_array {p q : Predicate} (h : Agree p q) : Agree (array p) (array q) := by
  intro v
  cases v with
  | array items =>
      rw [test_array, test_array]
      exact List.all_congr rfl h
  | _ => rfl

section Lists

variable {ps qs : List Predicate} (h : List.Forall₂ Agree ps qs)

include h

theorem agree_union : Agree (union ps) (union qs) := by
  intro v
  rw [test_union, test_union]
  induction h with
  | nil => rfl
  | cons hpq _ ih => rw [List.any_cons, List.any_cons, hpq v, ih]

theorem agree_intersection : Agree (intersection ps) (intersection qs) := by
  intro v
  rw [test_intersection, test_intersection]
  induction h with
  | nil => rfl
  | cons hpq _ ih => rw [List.all_cons, List.all_cons, hpq v, ih]

theorem agree_tuple : Agree (tuple ps) (tuple qs) := by
  intro v
  cases v with
  | array items =>
      rw [test_tuple, test_tuple, h.length_eq]
      apply congrArg
      induction h generalizing items with
      | nil => rfl
      | cons hpq _ ih =>
          cases items with
          | nil => rfl
          | cons item items =>
              rw [List.zip_cons_cons, List.zip_cons_cons, List.all_cons, List.all_cons,
                hpq item, ih items]
  | _ => rfl

end Lists

theorem agree_object {entries others : Entries Predicate}
    (h : Entries.Related Agree entries others) : Agree (object entries) (object others) := by
  intro v
  cases v with
  | object members =>
      have hhas : ∀ key, Entries.has entries key = Entries.has others key := by
        intro key
        rw [Bool.eq_iff_iff, Entries.has_iff_mem_names, Entries.has_iff_mem_names, h.names_eq]
      rw [test_object, test_object]
      simp only [hhas]
      apply congrArg
      clear hhas
      induction h with
      | nil => rfl
      | cons hentry _ ih => rw [List.all_cons, List.all_cons, hentry.1, hentry.2, ih]
  | _ => rfl

end Predicate

/-!
## Alike checks agree
-/

namespace Double

theorem eq_or_isZero_of_same {x y : Double} (h : x.same y = true) :
    x = y ∨ x.isZero = true ∧ y.isZero = true := by
  simp only [same, Bool.and_eq_true, Bool.or_eq_true, decide_eq_true_eq] at h
  rcases h.2 with hbits | hzero
  · left
    cases x with
    | mk xbits =>
        cases y with
        | mk ybits => exact congrArg Double.mk hbits
  · exact Or.inr hzero

theorem isNaN_eq_false_of_isZero {x : Double} (h : x.isZero = true) : x.isNaN = false := by
  rw [isZero, Bool.and_eq_true] at h
  rw [isNaN, h.1]
  rfl

theorem same_eq_isZero {x : Double} (h : x.isZero = true) (z : Double) :
    x.same z = z.isZero := by
  have hxnan := isNaN_eq_false_of_isZero h
  cases hz : z.isZero with
  | true =>
      have hznan := isNaN_eq_false_of_isZero hz
      simp [same, hxnan, hznan, h, hz]
  | false =>
      rw [Bool.eq_false_iff]
      intro hsame
      rcases eq_or_isZero_of_same hsame with heq | hboth
      · rw [heq, hz] at h
        cases h
      · rw [hboth.2] at hz
        cases hz

theorem same_eq_of_alike {x y : Double} (h : x.alike y = true) (z : Double) :
    x.same z = y.same z := by
  rw [alike, Bool.or_eq_true, Bool.and_eq_true] at h
  rcases h with ⟨hx, hy⟩ | hsame
  · simp [same, hx, hy]
  · rcases eq_or_isZero_of_same hsame with heq | ⟨hx, hy⟩
    · rw [heq]
    · rw [same_eq_isZero hx, same_eq_isZero hy]

end Double

theorem Literal.accepts_eq_of_alike {a b : Literal} (h : a.alike b = true) (v : Value) :
    a.accepts v = b.accepts v := by
  unfold Literal.alike at h
  split at h
  · cases v with
    | number z => exact Double.same_eq_of_alike h z
    | _ => rfl
  · rw [of_decide_eq_true h]

namespace Check

theorem agree_bindAll {cs ds : List Check}
    (h : List.Forall₂ (fun c d => Predicate.Agree c.bind d.bind) cs ds) :
    List.Forall₂ Predicate.Agree (bindAll cs) (bindAll ds) := by
  rw [bindAll_eq_map, bindAll_eq_map, List.forall₂_map_left_iff, List.forall₂_map_right_iff]
  exact h

theorem agree_bindEntries {entries others : List (String × Check)}
    (h : Entries.Related (fun c d => Predicate.Agree c.bind d.bind) entries others) :
    Entries.Related Predicate.Agree (bindEntries entries) (bindEntries others) := by
  rw [bindEntries_eq_map, bindEntries_eq_map, Entries.Related, List.forall₂_map_left_iff,
    List.forall₂_map_right_iff]
  exact h

theorem agree_of_alike {c d : Check} (h : c.alike d = true) :
    Predicate.Agree c.bind d.bind := by
  refine alike_induct (motive := fun c d => Predicate.Agree c.bind d.bind)
    ?const ?primitive ?noop ?optional ?union ?intersection ?tuple ?array ?object h
  case const => exact fun hab v => Literal.accepts_eq_of_alike hab v
  case primitive => exact fun type v => rfl
  case noop => exact fun v => rfl
  case optional => exact Predicate.agree_optional
  case union => exact fun ih => Predicate.agree_union (agree_bindAll ih)
  case intersection => exact fun ih => Predicate.agree_intersection (agree_bindAll ih)
  case tuple => exact fun ih => Predicate.agree_tuple (agree_bindAll ih)
  case array => exact Predicate.agree_array
  case object => exact fun ih => Predicate.agree_object (agree_bindEntries ih).ofList

end Check

end ShapeCheck
