import ShapeCheck.Check.Printer
import ShapeCheck.Predicate.Basic
import ShapeCheck.Value.Projection

/-!
# Validators

A validator holds a check, its predicate and, where it comes from a declaration,
the name of that declaration.  It hands back what it accepts.
-/

namespace ShapeCheck

structure Validator where
  name : Option String
  check : Check

namespace Validator

def rejection : String := "validation failed"

def ofCheck (check : Check) : Validator := ⟨none, check⟩

def named (name : String) (check : Check) : Validator := ⟨some name, check⟩

def expression (v : Validator) : String := v.check.print

def isValid (v : Validator) (value : Value) : Bool := v.check.bind.test value

def validate (v : Validator) (value : Value) : Except String Value :=
  if v.isValid value then .ok value else .error rejection

def validateJson (v : Validator) (j : Json) : Except String Json :=
  if v.isValid (Value.ofJson j) then .ok j else .error rejection

theorem validate_eq_ok_iff {validator : Validator} {v w : Value} :
    validator.validate v = .ok w ↔ validator.isValid v = true ∧ v = w := by
  rw [validate]
  cases validator.isValid v with
  | true => simp
  | false => simp

theorem validateJson_eq_ok_iff {validator : Validator} {j k : Json} :
    validator.validateJson j = .ok k ↔ validator.isValid (Value.ofJson j) = true ∧ j = k := by
  rw [validateJson]
  cases validator.isValid (Value.ofJson j) with
  | true => simp
  | false => simp

end Validator

end ShapeCheck
