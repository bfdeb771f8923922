import ShapeCheck.Check.Basic

/-!
# Predicates and their runs

A predicate is what a check becomes when its entries are collected by key.  A run
tells the verdict and which probes were called, in order and with what value; it
stops as soon as the verdict is settled.
-/

namespace ShapeCheck

/-- A test of values.  A probe answers always the same and is seen in the run. -/
inductive Predicate where
  | const (value : Literal)
  | primitive (type : Primitive)
  | noop
  | probe (label : String) (answer : Bool)
  | optional (inner : Predicate)
  | union (members : List Predicate)
  | intersection (members : List Predicate)
  | tuple (elements : List Predicate)
  | array (element : Predicate)
  | object (entries : List (String × Predicate))

instance : Inhabited Predicate := ⟨.noop⟩

structure Call where
  label : String
  argument : Value

structure Run where
  verdict : Bool
  calls : List Call

namespace Run

def quiet (verdict : Bool) : Run := ⟨verdict, []⟩

/-- Go on with `next` if the first run accepts. -/
def both (first : Run) (next : Unit → Run) : Run :=
  if first.verdict then
    let second := next ()
    ⟨second.verdict, first.calls ++ second.calls⟩
  else first

/-- Go on with `next` if the first run rejects. -/
def either (first : Run) (next : Unit → Run) : Run :=
  if first.verdict then first
  else
    let second := next ()
    ⟨second.verdict, first.calls ++ second.calls⟩

def each (test : Value → Run) : List Value → Run
  | [] => quiet true
  | v :: rest => (test v).both (fun _ => each test rest)

end Run

namespace Predicate

mutual
def run : Predicate → Value → Run
  | .const value, v => .quiet (value.accepts v)
  | .primitive type, v => .quiet (type.accepts v)
  | .noop, _ => .quiet true
  | .probe label answer, v => ⟨answer, [⟨label, v⟩]⟩
  | .optional inner, v => if v.isUndefined then .quiet true else inner.run v
  | .union members, v => runAny members v
  | .intersection members, v => runAll members v
  | .tuple elements, v =>
      match v with
      | .array items =>
          if items.length = elements.length then runPlaces elements items
          else .quiet false
      | _ => .quiet false
  | .array element, v =>
      match v with
      | .array items => Run.each (fun item => element.run item) items
      | _ => .quiet false
  | .object entries, v =>
      match v with
      | .object members =>
          if members.all (fun m => Entries.has entries m.1) then
            runEntries entries members
          else .quiet false
      | _ => .quiet false
termination_by structural p => p

def runAny : List Predicate → Value → Run
  | [], _ => .quiet false
  | p :: rest, v => (p.run v).either (fun _ => runAny rest v)
termination_by structural ps => ps

def runAll : List Predicate → Value → Run
  | [], _ => .quiet true
  | p :: rest, v => (p.run v).both (fun _ => runAll rest v)
termination_by structural ps => ps

def runPlaces : List Predicate → List Value → Run
  | p :: rest, v :: values => (p.run v).both (fun _ => runPlaces rest values)
  | _, _ => .quiet true
termination_by structural ps => ps

/-- Run the predicates of entries on the members of their names, absence for a
missing one, until one rejects. -/
def runEntries : List (String × Predicate) → List (String × Value) → Run
  | [], _ => .quiet true
  | (key, p) :: rest, members =>
      (p.run (Value.memberOrUndefined members key)).both
        (fun _ => runEntries rest members)
termination_by structural entries => entries
end

def test (p : Predicate) (v : Value) : Bool := (p.run v).verdict

end Predicate

namespace Check

mutual
/-- The predicate of a check.  Of entries with one key the last counts, in the
place of the first. -/
def bind : Check → Predicate
  | .const value => .const value
  | .primitive type => .primitive type
  | .noop => .noop
  | .optional inner => .optional inner.bind
  | .union members => .union (bindAll members)
  | .intersection members => .intersection (bindAll members)
  | .tuple elements => .tuple (bindAll elements)
  | .array element => .array element.bind
  | .object entries => .object (Entries.ofList (bindEntries entries))
termination_by structural c => c

def bindAll : List Check → List Predicate
  | [] => []
  | c :: rest => c.bind :: bindAll rest
termination_by structural cs => cs

def bindEntries : List (String × Check) → List (String × Predicate)
  | [] => []
  | (key, c) :: rest => (key, c.bind) :: bindEntries rest
termination_by structural entries => entries
end

end Check

end ShapeCheck
