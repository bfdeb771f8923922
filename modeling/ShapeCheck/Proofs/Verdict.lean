import ShapeCheck.Predicate.Basic

/-!
# Verdicts

The verdict of a run without its calls: what each combinator accepts in terms of
the verdicts of its parts.
-/

namespace ShapeCheck

namespace Run

theorem verdict_both (first : Run) (next : Unit → Run) :
    (first.both next).verdict = (first.verdict && (next ()).verdict) := by
  rw [both]
  cases h : first.verdict with
  | true => rw [if_pos rfl, Bool.true_and]
  | false => rw [if_neg Bool.false_ne_true, h, Bool.false_and]

theorem verdict_either (first : Run) (next : Unit → Run) :
    (first.either next).verdict = (first.verdict || (next ()).verdict) := by
  rw [either]
  cases h : first.verdict with
  | true => rw [if_pos rfl, h, Bool.true_or]
  | false => rw [if_neg Bool.false_ne_true, Bool.false_or]

theorem verdict_each (test : Value → Run) (values : List Value) :
    (each test values).verdict = values.all (fun v => (test v).verdict) := by
  induction values with
  | nil => rfl
  | cons v rest ih => rw [each, verdict_both, ih, List.all_cons]

end Run

namespace Predicate

/-!
## Lists of predicates
-/

theorem verdict_runAny (ps : List Predicate) (v : Value) :
    (runAny ps v).verdict = ps.any (fun p => p.test v) := by
  induction ps with
  | nil => rfl
  | cons p rest ih => rw [runAny, Run.verdict_either, ih, List.any_cons, test]

theorem verdict_runAll (ps : List Predicate) (v : Value) :
    (runAll ps v).verdict = ps.all (fun p => p.test v) := by
  induction ps with
  | nil => rfl
  | cons p rest ih => rw [runAll, Run.verdict_both, ih, List.all_cons, test]

theorem verdict_runPlaces (ps : List Predicate) (values : List Value) :
    (runPlaces ps values).verdict =
      (ps.zip values).all (fun place => place.1.test place.2) := by
  induction ps generalizing values with
  | nil => rfl
  | cons p rest ih =>
      cases values with
      | nil => rfl
      | cons v values =>
          rw [runPlaces, Run.verdict_both, ih, List.zip_cons_cons, List.all_cons, test]

theorem verdict_runEntries (entries : List (String × Predicate))
    (members : List (String × Value)) :
    (runEntries entries members).verdict =
      entries.all (fun e => e.2.test (Value.memberOrUndefined members e.1)) := by
  induction entries with
  | nil => rfl
  | cons entry rest ih =>
      cases entry with
      | mk key p => rw [runEntries, Run.verdict_both, ih, List.all_cons, test]

/-!
## Combinators
-/

theorem test_optional (inner : Predicate) (v : Value) :
    (optional inner).test v = (v.isUndefined || inner.test v) := by
  rw [test, run]
  cases h : v.isUndefined with
  | true => rfl
  | false => rfl

theorem test_union (members : List Predicate) (v : Value) :
    (union members).test v = members.any (fun p => p.test v) :=
  verdict_runAny members v

theorem test_intersection (members : List Predicate) (v : Value) :
    (intersection members).test v = members.all (fun p => p.test v) :=
  verdict_runAll members v

theorem test_tuple (elements : List Predicate) (items : List Value) :
    (tuple elements).test (.array items) =
      (items.length == elements.length &&
        (elements.zip items).all (fun place => place.1.test place.2)) := by
  rw [test, run]
  by_cases h : items.length = elements.length
  · rw [if_pos h, verdict_runPlaces, beq_iff_eq.mpr h, Bool.true_and]
  · rw [if_neg h, beq_false_of_ne h, Bool.false_and]
    rfl

theorem test_array (element : Predicate) (items : List Value) :
    (array element).test (.array items) = items.all (fun v => element.test v) :=
  Run.verdict_each _ items

theorem test_object (entries : List (String × Predicate))
    (members : List (String × Value)) :
    (object entries).test (.object members) =
      (members.all (fun m => Entries.has entries m.1) &&
        entries.all (fun e => e.2.test (Value.memberOrUndefined members e.1))) := by
  rw [test, run]
  cases h : members.all (fun m => Entries.has entries m.1) with
  | true => rw [if_pos rfl, verdict_runEntries, Bool.true_and]
  | false =>
      rw [if_neg Bool.false_ne_true, Bool.false_and]
      rfl

end Predicate

namespace Check

theorem bindAll_eq_map (checks : List Check) : bindAll checks = checks.map bind := by
  induction checks with
  | nil => rfl
  | cons c rest ih => rw [bindAll, ih, List.map_cons]

theorem bindEntries_eq_map (entries : List (String × Check)) :
    bindEntries entries = entries.map (fun e => (e.1, e.2.bind)) := by
  induction entries with
  | nil => rfl
  | cons entry rest ih =>
      cases entry with
      | mk key c => rw [bindEntries, ih, List.map_cons]

end Check

end ShapeCheck
