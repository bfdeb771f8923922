import ShapeCheck.Check.Combinator
import ShapeCheck.Shape.Basic

/-!
# Checks

A check is an expression over the combinators.
-/

namespace ShapeCheck

inductive Check where
  | const (value : Literal)
  | primitive (type : Primitive)
  | noop
  | optional (inner : Check)
  | union (members : List Check)
  | intersection (members : List Check)
  | tuple (elements : List Check)
  | array (element : Check)
  | object (entries : List (String × Check))

instance : Inhabited Check := ⟨.noop⟩

namespace Check

def ofPrimitive : Primitive → Combinator
  | .text => .text
  | .number => .number
  | .boolean => .boolean

def combinator : Check → Combinator
  | .const _ => .const
  | .primitive type => ofPrimitive type
  | .noop => .noop
  | .optional _ => .optional
  | .union _ => .union
  | .intersection _ => .intersection
  | .tuple _ => .tuple
  | .array _ => .array
  | .object _ => .object

def children : Check → List Check
  | .optional inner => [inner]
  | .union members => members
  | .intersection members => members
  | .tuple elements => elements
  | .array element => [element]
  | .object entries => entries.map Prod.snd
  | _ => []

mutual
/-- How many checks there are in a check, itself included. -/
def size : Check → Nat
  | .const _ => 1
  | .primitive _ => 1
  | .noop => 1
  | .optional inner => inner.size + 1
  | .union members => sizeOfAll members + 1
  | .intersection members => sizeOfAll members + 1
  | .tuple elements => sizeOfAll elements + 1
  | .array element => element.size + 1
  | .object entries => sizeOfEntries entries + 1
termination_by structural c => c

def sizeOfAll : List Check → Nat
  | [] => 0
  | c :: rest => c.size + sizeOfAll rest
termination_by structural cs => cs

def sizeOfEntries : List (String × Check) → Nat
  | [] => 0
  | (_, c) :: rest => c.size + sizeOfEntries rest
termination_by structural entries => entries
end

theorem sizeOfAll_append (cs ds : List Check) :
    sizeOfAll (cs ++ ds) = sizeOfAll cs + sizeOfAll ds := by
  induction cs with
  | nil => rw [List.nil_append, sizeOfAll, Nat.zero_add]
  | cons c cs ih => rw [List.cons_append, sizeOfAll, sizeOfAll, ih, Nat.add_assoc]

theorem sizeOfAll_reverse (cs : List Check) : sizeOfAll cs.reverse = sizeOfAll cs := by
  induction cs with
  | nil => rfl
  | cons c cs ih =>
      rw [List.reverse_cons, sizeOfAll_append, ih, sizeOfAll, sizeOfAll, sizeOfAll, Nat.add_zero,
        Nat.add_comm]

theorem sizeOfEntries_eq (entries : List (String × Check)) :
    sizeOfEntries entries = sizeOfAll (entries.map Prod.snd) := by
  induction entries with
  | nil => rfl
  | cons e entries ih => rw [sizeOfEntries, List.map_cons, sizeOfAll, ih]

theorem size_eq (c : Check) : c.size = sizeOfAll c.children + 1 := by
  cases c with
  | object entries => rw [size, children, sizeOfEntries_eq]
  | _ => rfl

/-- The outermost combinators of the checks on a stack and of all checks inside them, as
they are met.  The parts of a check are put on top of the stack, the last one uppermost. -/
def met : List Check → List Combinator
  | [] => []
  | c :: stack => c.combinator :: met (c.children.reverse ++ stack)
termination_by stack => sizeOfAll stack
decreasing_by
  rw [sizeOfAll_append, sizeOfAll_reverse, sizeOfAll, size_eq]
  omega

def combinators (c : Check) : List Combinator := Combinator.setOf (met [c])

mutual
/-- The number of checks on the longest way down. -/
def depth : Check → Nat
  | .const _ => 1
  | .primitive _ => 1
  | .noop => 1
  | .optional inner => 1 + inner.depth
  | .union members => 1 + depthOf members
  | .intersection members => 1 + depthOf members
  | .tuple elements => 1 + depthOf elements
  | .array element => 1 + element.depth
  | .object entries => 1 + depthOfEntries entries
termination_by structural c => c

def depthOf : List Check → Nat
  | [] => 0
  | c :: rest => max c.depth (depthOf rest)
termination_by structural cs => cs

def depthOfEntries : List (String × Check) → Nat
  | [] => 0
  | (_, c) :: rest => max c.depth (depthOfEntries rest)
termination_by structural entries => entries
end

end Check

end ShapeCheck
