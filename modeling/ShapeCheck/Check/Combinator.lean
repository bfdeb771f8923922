/-!
# The vocabulary of checks

Checks are built from eleven combinators.  Generated modules import them by name.
-/

namespace ShapeCheck

inductive Combinator where
  | const
  | text
  | number
  | boolean
  | optional
  | union
  | intersection
  | tuple
  | array
  | object
  | noop
deriving DecidableEq

namespace Combinator

def all : List Combinator :=
  [.const, .text, .number, .boolean, .optional, .union, .intersection, .tuple,
    .array, .object, .noop]

theorem mem_all (k : Combinator) : k ∈ all := by
  cases k <;> decide

def name : Combinator → String
  | .const => "validateConst"
  | .text => "validateText"
  | .number => "validateNumber"
  | .boolean => "validateBoolean"
  | .optional => "validateOptional"
  | .union => "validateUnion"
  | .intersection => "validateIntersection"
  | .tuple => "validateTuple"
  | .array => "validateArray"
  | .object => "validateObject"
  | .noop => "noop"

/-- The set of some combinators, in the order in which all are listed. -/
def setOf (ks : List Combinator) : List Combinator := all.filter ks.contains

theorem mem_setOf_iff {ks : List Combinator} {k : Combinator} : k ∈ setOf ks ↔ k ∈ ks := by
  rw [setOf, List.mem_filter, and_iff_right (mem_all k), List.contains_iff_mem]

end Combinator

end ShapeCheck
