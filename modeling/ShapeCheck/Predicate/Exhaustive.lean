import ShapeCheck.Predicate.Basic

/-!
# Exhaustive runs

A run that goes on when the verdict is settled: every part of a predicate is run
wherever the value is of the kind that the predicate walks.
-/

namespace ShapeCheck
namespace Run

def and (first second : Run) : Run :=
  ⟨first.verdict && second.verdict, first.calls ++ second.calls⟩

def or (first second : Run) : Run :=
  ⟨first.verdict || second.verdict, first.calls ++ second.calls⟩

/-- A run of which only the calls count if a condition fails. -/
def provided (condition : Bool) (r : Run) : Run := ⟨condition && r.verdict, r.calls⟩

def all (test : Value → Run) : List Value → Run
  | [] => quiet true
  | v :: rest => (test v).and (all test rest)

end Run

namespace Predicate

mutual
def runFully : Predicate → Value → Run
  | .const value, v => .quiet (value.accepts v)
  | .primitive type, v => .quiet (type.accepts v)
  | .noop, _ => .quiet true
  | .probe label answer, v => ⟨answer, [⟨label, v⟩]⟩
  | .optional inner, v => (Run.quiet v.isUndefined).or (inner.runFully v)
  | .union members, v => runFullyAny members v
  | .intersection members, v => runFullyAll members v
  | .tuple elements, v =>
      match v with
      | .array items =>
          Run.provided (items.length == elements.length) (runFullyPlaces elements items)
      | _ => .quiet false
  | .array element, v =>
      match v with
      | .array items => Run.all (fun item => element.runFully item) items
      | _ => .quiet false
  | .object entries, v =>
      match v with
      | .object members =>
          Run.provided (members.all (fun m => Entries.has entries m.1))
            (runFullyEntries entries members)
      | _ => .quiet false
termination_by structural p => p

def runFullyAny : List Predicate → Value → Run
  | [], _ => .quiet false
  | p :: rest, v => (p.runFully v).or (runFullyAny rest v)
termination_by structural ps => ps

def runFullyAll : List Predicate → Value → Run
  | [], _ => .quiet true
  | p :: rest, v => (p.runFully v).and (runFullyAll rest v)
termination_by structural ps => ps

def runFullyPlaces : List Predicate → List Value → Run
  | p :: rest, v :: values => (p.runFully v).and (runFullyPlaces rest values)
  | _, _ => .quiet true
termination_by structural ps => ps

def runFullyEntries : List (String × Predicate) → List (String × Value) → Run
  | [], _ => .quiet true
  | (key, p) :: rest, members =>
      (p.runFully (Value.memberOrUndefined members key)).and
        (runFullyEntries rest members)
termination_by structural entries => entries
end

end Predicate
end ShapeCheck
