import ShapeCheck.Predicate.Exhaustive
import ShapeCheck.Proofs.Induction
import ShapeCheck.Proofs.Recursion

/-!
# What a run skips

A run stops as soon as the verdict is settled.  Nothing is lost by that but calls: the
verdict is that of the run which goes on to the end, and the calls that are made are made
by that run too, in the same order.
-/

namespace ShapeCheck

/-!
## Runs and shortened runs
-/

namespace Run

/-- A run with the verdict of another one that makes some of its calls, in their order. -/
structure Shortens (short full : Run) : Prop where
  verdict : short.verdict = full.verdict
  calls : List.Sublist short.calls full.calls

namespace Shortens

theorem refl (r : Run) : r.Shortens r := ⟨rfl, List.Sublist.refl _⟩

theorem quiet {verdict : Bool} {full : Run} (h : verdict = full.verdict) :
    (Run.quiet verdict).Shortens full := ⟨h, List.nil_sublist _⟩

variable {first first' second' : Run} {next : Unit → Run}

theorem both (hfirst : first.Shortens first') (hnext : (next ()).Shortens second') :
    (first.both next).Shortens (first'.and second') := by
  constructor
  · rw [verdict_both, hfirst.verdict, hnext.verdict]
    rfl
  · rw [calls_both]
    apply hfirst.calls.append
    split
    · exact List.nil_sublist _
    · exact hnext.calls

theorem either (hfirst : first.Shortens first') (hnext : (next ()).Shortens second') :
    (first.either next).Shortens (first'.or second') := by
  constructor
  · rw [verdict_either, hfirst.verdict, hnext.verdict]
    rfl
  · rw [calls_either]
    apply hfirst.calls.append
    split
    · exact List.nil_sublist _
    · exact hnext.calls

theorem each {test test' : Value → Run} (h : ∀ v, (test v).Shortens (test' v))
    (values : List Value) : (Run.each test values).Shortens (Run.all test' values) := by
  induction values with
  | nil => exact refl _
  | cons v rest ih => exact both (h v) ih

theorem provided {short full : Run} (h : short.Shortens full) {condition : Bool}
    (hcondition : condition = true) : short.Shortens (Run.provided condition full) := by
  rw [hcondition]
  exact ⟨h.verdict, h.calls⟩

theorem quiet_provided {full : Run} {condition : Bool} (hcondition : condition = false) :
    (Run.quiet false).Shortens (Run.provided condition full) := by
  rw [hcondition]
  exact quiet rfl

end Shortens

end Run

/-!
## Runs of predicates
-/

namespace Predicate

section Lists

variable {ps : List Predicate} (h : ∀ p ∈ ps, ∀ v, (p.run v).Shortens (p.runFully v))

include h

theorem runAny_shortens (v : Value) : (runAny ps v).Shortens (runFullyAny ps v) := by
  induction ps with
  | nil => exact .refl _
  | cons p rest ih =>
      rcases List.forall_mem_cons.mp h with ⟨hp, hrest⟩
      exact .either (hp v) (ih hrest)

theorem runAll_shortens (v : Value) : (runAll ps v).Shortens (runFullyAll ps v) := by
  induction ps with
  | nil => exact .refl _
  | cons p rest ih =>
      rcases List.forall_mem_cons.mp h with ⟨hp, hrest⟩
      exact .both (hp v) (ih hrest)

theorem runPlaces_shortens (values : List Value) :
    (runPlaces ps values).Shortens (runFullyPlaces ps values) := by
  induction ps generalizing values with
  | nil => exact .refl _
  | cons p rest ih =>
      rcases List.forall_mem_cons.mp h with ⟨hp, hrest⟩
      cases values with
      | nil => exact .refl _
      | cons v values => exact .both (hp v) (ih hrest values)

end Lists

theorem runEntries_shortens {entries : List (String × Predicate)}
    (h : ∀ e ∈ entries, ∀ v, (e.2.run v).Shortens (e.2.runFully v))
    (members : List (String × Value)) :
    (runEntries entries members).Shortens (runFullyEntries entries members) := by
  induction entries with
  | nil => exact .refl _
  | cons e rest ih =>
      rcases List.forall_mem_cons.mp h with ⟨he, hrest⟩
      exact .both (he _) (ih hrest)

theorem run_shortens (p : Predicate) (v : Value) : (p.run v).Shortens (p.runFully v) := by
  induction p generalizing v with
  | const value => exact .refl _
  | primitive type => exact .refl _
  | noop => exact .refl _
  | probe label answer => exact .refl _
  | optional inner ih =>
      rw [run, runFully]
      cases v.isUndefined with
      | true => exact .quiet rfl
      | false => exact ⟨(ih v).verdict, (ih v).calls⟩
  | union members ih => exact runAny_shortens ih v
  | intersection members ih => exact runAll_shortens ih v
  | tuple elements ih =>
      cases v with
      | array items =>
          rw [run, runFully]
          by_cases hlength : items.length = elements.length
          · rw [if_pos hlength]
            exact (runPlaces_shortens ih items).provided (beq_iff_eq.mpr hlength)
          · rw [if_neg hlength]
            exact .quiet_provided (beq_false_of_ne hlength)
      | _ => exact .refl _
  | array element ih =>
      cases v with
      | array items => exact .each ih items
      | _ => exact .refl _
  | object entries ih =>
      cases v with
      | object members =>
          rw [run, runFully]
          cases hdeclared : members.all (fun m => Entries.has entries m.1) with
          | true => exact (runEntries_shortens ih members).provided rfl
          | false => exact .quiet_provided rfl
      | _ => exact .refl _

/-!
## Where a run stops
-/

theorem puts_of_first {settling : Bool} {before after : List (Predicate × Value)}
    {task : Predicate × Value}
    (hbefore : ∀ earlier ∈ before, earlier.1.test earlier.2 ≠ settling)
    (htask : task.1.test task.2 = settling) :
    puts settling (before ++ task :: after) = before ++ [task] := by
  induction before with
  | nil =>
      rw [List.nil_append, puts, if_pos htask]
      rfl
  | cons first rest ih =>
      rcases List.forall_mem_cons.mp hbefore with ⟨hfirst, hrest⟩
      rw [List.cons_append, puts, if_neg hfirst, ih hrest]
      rfl

theorem puts_of_none {settling : Bool} {tasks : List (Predicate × Value)}
    (h : ∀ task ∈ tasks, task.1.test task.2 ≠ settling) : puts settling tasks = tasks := by
  induction tasks with
  | nil => rfl
  | cons task rest ih =>
      rcases List.forall_mem_cons.mp h with ⟨htask, hrest⟩
      rw [puts, if_neg htask, ih hrest]

theorem calls_of_first {p : Predicate} {v : Value} {before after : List (Predicate × Value)}
    {task : Predicate × Value} (htasks : p.tasks v = before ++ task :: after)
    (hbefore : ∀ earlier ∈ before, earlier.1.test earlier.2 ≠ p.settling)
    (htask : task.1.test task.2 = p.settling) :
    (p.run v).calls = callsOf (before ++ [task]) := by
  have hprobe : ∀ label answer, p ≠ .probe label answer := by
    rintro label answer rfl
    exact List.append_ne_nil_of_right_ne_nil _ (List.cons_ne_nil _ _) htasks.symm
  rw [calls_run hprobe, htasks, puts_of_first hbefore htask]

theorem calls_tuple_of_length_ne {elements : List Predicate} {items : List Value}
    (h : items.length ≠ elements.length) :
    ((Predicate.tuple elements).run (.array items)).calls = [] := by
  rw [run, if_neg h]
  rfl

theorem calls_object_of_undeclared {entries : List (String × Predicate)}
    {members : List (String × Value)} {key : String} (hmember : key ∈ Entries.names members)
    (hentry : key ∉ Entries.names entries) :
    ((Predicate.object entries).run (.object members)).calls = [] := by
  have hall : ¬ members.all (fun m => Entries.has entries m.1) = true := by
    intro hall
    rcases List.mem_map.mp hmember with ⟨m, hm, rfl⟩
    exact hentry (Entries.has_iff_mem_names.mp (List.all_eq_true.mp hall m hm))
  rw [run, if_neg hall]
  rfl

/-- A run has the verdict of the run that goes on to the end, and calls are skipped but never
made otherwise.  Nothing is called after the first part that settles the verdict, which is
an accepting member of a union or a rejecting part of anything else, and nothing at all where
the number of places or a key is wrong. -/
theorem run_skips_calls_only (p : Predicate) (v : Value) :
    (p.run v).verdict = (p.runFully v).verdict ∧
    List.Sublist (p.run v).calls (p.runFully v).calls ∧
    (∀ before task after, p.tasks v = before ++ task :: after →
      (∀ earlier ∈ before, earlier.1.test earlier.2 ≠ p.settling) →
      task.1.test task.2 = p.settling → (p.run v).calls = callsOf (before ++ [task])) ∧
    ((∀ label answer, p ≠ .probe label answer) →
      (∀ task ∈ p.tasks v, task.1.test task.2 ≠ p.settling) →
      (p.run v).calls = callsOf (p.tasks v)) ∧
    (∀ elements items, p = .tuple elements → v = .array items →
      items.length ≠ elements.length → (p.run v).calls = []) ∧
    ∀ entries members key, p = .object entries → v = .object members →
      key ∈ Entries.names members → key ∉ Entries.names entries → (p.run v).calls = [] := by
  refine ⟨(run_shortens p v).verdict, (run_shortens p v).calls, ?_, ?_, ?_, ?_⟩
  · intro before task after
    exact calls_of_first
  · intro hprobe hnone
    rw [calls_run hprobe, puts_of_none hnone]
  · rintro elements items rfl rfl
    exact calls_tuple_of_length_ne
  · rintro entries members key rfl rfl
    exact calls_object_of_undeclared

/-- A missing field with a union of probes, then a field that rejects and one that is not
looked at; the object itself in a place of a tuple that is too long. -/
theorem run_skips_calls_only_object :
    let object := Predicate.object
      [("a", .union [.probe "1" false, .probe "2" true, .probe "3" true]),
        ("b", .probe "4" false), ("c", .probe "5" true)]
    let v := Value.object [("b", .null)]
    (object.run v).calls = [⟨"1", .undefined⟩, ⟨"2", .undefined⟩, ⟨"4", .null⟩] ∧
      List.Sublist (object.run v).calls
        [⟨"1", .undefined⟩, ⟨"2", .undefined⟩, ⟨"3", .undefined⟩, ⟨"4", .null⟩,
          ⟨"5", .undefined⟩] ∧
      ((Predicate.tuple [object]).run (.array [v, v])).calls = [] := by
  intro object v
  rcases run_skips_calls_only object v with ⟨_, hsublist, hfirst, _⟩
  refine ⟨?_, hsublist, ?_⟩
  · refine hfirst [(_, .undefined)] (_, .null) [_] rfl ?_ rfl
    rw [List.forall_mem_singleton]
    decide
  · exact (run_skips_calls_only (.tuple [object]) (.array [v, v])).2.2.2.2.1 _ _ rfl rfl
      (by decide)

end Predicate
end ShapeCheck
