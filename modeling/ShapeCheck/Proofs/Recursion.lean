import Mathlib.Logic.Relation
import ShapeCheck.Proofs.Entries
import ShapeCheck.Proofs.Site
import ShapeCheck.Proofs.Verdict

/-!
# Runs inside runs

The run of a predicate puts its parts to values, one after the other, until the verdict is
settled.  Each of these runs is nested in the first.  The calls that a run makes are those
of the runs nested in it.
-/

namespace ShapeCheck

namespace Run

theorem calls_both (first : Run) (next : Unit → Run) :
    (first.both next).calls =
      first.calls ++ if first.verdict = false then [] else (next ()).calls := by
  rw [both]
  cases h : first.verdict with
  | true => rfl
  | false => exact (List.append_nil _).symm

theorem calls_either (first : Run) (next : Unit → Run) :
    (first.either next).calls =
      first.calls ++ if first.verdict = true then [] else (next ()).calls := by
  rw [either]
  cases h : first.verdict with
  | true => exact (List.append_nil _).symm
  | false => rfl

end Run

namespace Predicate

/-- The predicates that a run on a value has to put, each with the value it is put to. -/
def tasks : Predicate → Value → List (Predicate × Value)
  | .optional inner, v => if v.isUndefined then [] else [(inner, v)]
  | .union members, v => members.map (fun p => (p, v))
  | .intersection members, v => members.map (fun p => (p, v))
  | .tuple elements, .array items =>
      if items.length = elements.length then elements.zip items else []
  | .array element, .array items => items.map (fun item => (element, item))
  | .object entries, .object members =>
      if members.all (fun m => Entries.has entries m.1) then
        entries.map (fun e => (e.2, Value.memberOrUndefined members e.1))
      else []
  | _, _ => []

/-- The verdict on a task after which no other is looked at. -/
def settling : Predicate → Bool
  | .union _ => true
  | _ => false

/-- In the run of `p` on `v` there is a run of `q` on `w`. -/
def Calls (p : Predicate) (v : Value) (q : Predicate) (w : Value) : Prop :=
  ∃ k, FirstAt (fun task => task.1.test task.2 ≠ p.settling) (p.tasks v) k (q, w)

/-- As many runs as `n`, each nested in the one before, the first of `p` on `v`. -/
inductive Recurses : Nat → Predicate → Value → Prop
  | run (p : Predicate) (v : Value) : Recurses 1 p v
  | call {n : Nat} {p q : Predicate} {v w : Value} (hcall : p.Calls v q w)
      (h : Recurses n q w) : Recurses (n + 1) p v

/-!
## The calls of a run
-/

/-- The tasks up to the first with the settling verdict, which is the last one put. -/
def puts (settling : Bool) : List (Predicate × Value) → List (Predicate × Value)
  | [] => []
  | task :: rest =>
      task :: if task.1.test task.2 = settling then [] else puts settling rest

def callsOf (tasks : List (Predicate × Value)) : List Call :=
  tasks.flatMap (fun task => (task.1.run task.2).calls)

theorem callsOf_puts_cons (settling : Bool) (task : Predicate × Value)
    (rest : List (Predicate × Value)) :
    callsOf (puts settling (task :: rest)) = (task.1.run task.2).calls ++
      if task.1.test task.2 = settling then [] else callsOf (puts settling rest) := by
  rw [puts, callsOf, List.flatMap_cons]
  by_cases h : task.1.test task.2 = settling
  · rw [if_pos h, if_pos h]
    rfl
  · rw [if_neg h, if_neg h]
    rfl

theorem calls_runAny (ps : List Predicate) (v : Value) :
    (runAny ps v).calls = callsOf (puts true (ps.map (fun p => (p, v)))) := by
  induction ps with
  | nil => rfl
  | cons p rest ih =>
      rw [runAny, Run.calls_either, ih, List.map_cons, callsOf_puts_cons]
      rfl

theorem calls_runAll (ps : List Predicate) (v : Value) :
    (runAll ps v).calls = callsOf (puts false (ps.map (fun p => (p, v)))) := by
  induction ps with
  | nil => rfl
  | cons p rest ih =>
      rw [runAll, Run.calls_both, ih, List.map_cons, callsOf_puts_cons]
      rfl

theorem calls_runPlaces (ps : List Predicate) (values : List Value) :
    (runPlaces ps values).calls = callsOf (puts false (ps.zip values)) := by
  induction ps generalizing values with
  | nil => rfl
  | cons p rest ih =>
      cases values with
      | nil => rfl
      | cons v values =>
          rw [runPlaces, Run.calls_both, ih, List.zip_cons_cons, callsOf_puts_cons]
          rfl

theorem calls_each (p : Predicate) (values : List Value) :
    (Run.each (fun v => p.run v) values).calls =
      callsOf (puts false (values.map (fun v => (p, v)))) := by
  induction values with
  | nil => rfl
  | cons v rest ih =>
      rw [Run.each, Run.calls_both, ih, List.map_cons, callsOf_puts_cons]
      rfl

theorem calls_runEntries (entries : List (String × Predicate)) (members : List (String × Value)) :
    (runEntries entries members).calls = callsOf (puts false
      (entries.map (fun e => (e.2, Value.memberOrUndefined members e.1)))) := by
  induction entries with
  | nil => rfl
  | cons entry rest ih =>
      cases entry with
      | mk key p =>
          rw [runEntries, Run.calls_both, ih, List.map_cons, callsOf_puts_cons]
          rfl

/-- Apart from a probe, which calls itself, a run makes the calls of the tasks it puts. -/
theorem calls_run {p : Predicate} (hprobe : ∀ label answer, p ≠ .probe label answer) (v : Value) :
    (p.run v).calls = callsOf (puts p.settling (p.tasks v)) := by
  cases p with
  | const value => rfl
  | primitive type => rfl
  | noop => rfl
  | probe label answer => exact absurd rfl (hprobe label answer)
  | optional inner =>
      rw [run, tasks]
      cases v.isUndefined with
      | true => rfl
      | false =>
          show _ = callsOf (puts false [(inner, v)])
          rw [callsOf_puts_cons]
          simp [puts, callsOf]
  | union members => exact calls_runAny members v
  | intersection members => exact calls_runAll members v
  | tuple elements =>
      cases v with
      | array items =>
          rw [run, tasks]
          by_cases hlength : items.length = elements.length
          · rw [if_pos hlength, if_pos hlength]
            exact calls_runPlaces elements items
          · rw [if_neg hlength, if_neg hlength]
            rfl
      | _ => rfl
  | array element =>
      cases v with
      | array items => exact calls_each element items
      | _ => rfl
  | object entries =>
      cases v with
      | object members =>
          rw [run, tasks]
          cases members.all (fun m => Entries.has entries m.1) with
          | true => exact calls_runEntries entries members
          | false => rfl
      | _ => rfl

/-!
## The verdict of a run

A predicate asks something of the value itself and leaves the rest to its tasks.
-/

def suits : Predicate → Value → Bool
  | .const value, v => value.accepts v
  | .primitive type, v => type.accepts v
  | .noop, _ => true
  | .probe _ answer, _ => answer
  | .optional _, _ => true
  | .union _, _ => true
  | .intersection _, _ => true
  | .tuple elements, .array items => items.length == elements.length
  | .array _, .array _ => true
  | .object entries, .object members => members.all (fun m => Entries.has entries m.1)
  | _, _ => false

def verdictOn (p : Predicate) (tasks : List (Predicate × Value)) : Bool :=
  if p.settling then tasks.any (fun task => task.1.test task.2)
  else tasks.all (fun task => task.1.test task.2)

theorem test_eq_suits_and_verdictOn (p : Predicate) (v : Value) :
    p.test v = (p.suits v && p.verdictOn (p.tasks v)) := by
  have hall : ∀ {tasks : List (Predicate × Value)}, p.settling = false →
      p.verdictOn tasks = tasks.all (fun task => task.1.test task.2) := by
    intro tasks hsettling
    rw [verdictOn, hsettling, if_neg Bool.false_ne_true]
  cases p with
  | const value => exact (Bool.and_true _).symm
  | primitive type => exact (Bool.and_true _).symm
  | noop => rfl
  | probe label answer => exact (Bool.and_true _).symm
  | optional inner =>
      rw [test_optional, hall rfl, suits, tasks, Bool.true_and]
      cases v.isUndefined with
      | true => rfl
      | false => exact (Bool.and_true _).symm
  | union members =>
      rw [test_union, suits, Bool.true_and, verdictOn, settling, if_pos rfl, tasks, List.any_map]
      rfl
  | intersection members =>
      rw [test_intersection, hall rfl, suits, Bool.true_and, tasks, List.all_map]
      rfl
  | tuple elements =>
      cases v with
      | array items =>
          rw [test_tuple, hall rfl, suits, tasks]
          by_cases hlength : items.length = elements.length
          · rw [if_pos hlength]
          · rw [beq_false_of_ne hlength, Bool.false_and, Bool.false_and]
      | _ => rfl
  | array element =>
      cases v with
      | array items =>
          rw [test_array, hall rfl, suits, Bool.true_and, tasks, List.all_map]
          rfl
      | _ => rfl
  | object entries =>
      cases v with
      | object members =>
          rw [test_object, hall rfl, suits, tasks]
          cases members.all (fun m => Entries.has entries m.1) with
          | true =>
              rw [if_pos rfl, List.all_map]
              rfl
          | false => rfl
      | _ => rfl

def Reaches (p : Predicate) (v : Value) (q : Predicate) (w : Value) : Prop :=
  Relation.ReflTransGen (fun a b => a.1.Calls a.2 b.1 b.2) (p, v) (q, w)

end Predicate

/-!
## The predicates of checks
-/

namespace Check

theorem exists_child_of_mem_tasks {c : Check} {q : Predicate} {v w : Value}
    (hmem : (q, w) ∈ c.bind.tasks v) : ∃ d ∈ c.children, d.bind = q := by
  have hlist : ∀ {checks : List Check}, q ∈ bindAll checks → ∃ d ∈ checks, d.bind = q := by
    intro checks hq
    rw [bindAll_eq_map] at hq
    exact List.mem_map.mp hq
  have hput : ∀ {checks : List Check}, (q, w) ∈ (bindAll checks).map (fun p => (p, v)) →
      ∃ d ∈ checks, d.bind = q := by
    intro checks hq
    rcases List.mem_map.mp hq with ⟨p, hp, heq⟩
    cases heq
    exact hlist hp
  cases c with
  | const value => cases hmem
  | primitive type => cases hmem
  | noop => cases hmem
  | optional inner =>
      rw [bind, Predicate.tasks] at hmem
      cases hundefined : v.isUndefined with
      | true =>
          rw [hundefined] at hmem
          cases hmem
      | false =>
          rw [hundefined] at hmem
          cases List.mem_singleton.mp hmem
          exact ⟨inner, List.mem_cons_self, rfl⟩
  | union members => exact hput hmem
  | intersection members => exact hput hmem
  | tuple elements =>
      cases v with
      | array items =>
          rw [bind, Predicate.tasks] at hmem
          by_cases hlength : items.length = (bindAll elements).length
          · rw [if_pos hlength] at hmem
            exact hlist (List.of_mem_zip hmem).1
          · rw [if_neg hlength] at hmem
            cases hmem
      | _ => cases hmem
  | array element =>
      cases v with
      | array items =>
          rcases List.mem_map.mp hmem with ⟨item, _, heq⟩
          cases heq
          exact ⟨element, List.mem_cons_self, rfl⟩
      | _ => cases hmem
  | object entries =>
      cases v with
      | object members =>
          rw [bind, Predicate.tasks] at hmem
          split at hmem
          · rcases List.mem_map.mp hmem with ⟨e, he, heq⟩
            cases heq
            have hbound := Entries.mem_of_mem_ofList he
            rw [bindEntries_eq_map] at hbound
            rcases List.mem_map.mp hbound with ⟨entry, hentry, rfl⟩
            exact ⟨entry.2, List.mem_map_of_mem hentry, rfl⟩
          · cases hmem
      | _ => cases hmem

theorem exists_child_of_calls {c : Check} {q : Predicate} {v w : Value}
    (h : c.bind.Calls v q w) : ∃ d ∈ c.children, d.bind = q := by
  rcases h with ⟨k, hfirst⟩
  exact exists_child_of_mem_tasks (List.mem_of_getElem? hfirst.place)

end Check
end ShapeCheck
