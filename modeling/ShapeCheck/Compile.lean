import ShapeCheck.Check.Basic
import ShapeCheck.Shape.Error

/-!
# Compiling shapes

A shape becomes a check of the same form.  A ceiling limits how deep shapes may
nest; empty unions and fields of one name are refused.  Nodes are visited before
their parts and parts from left to right, so the first violation is reported.
-/

namespace ShapeCheck

def defaultMaxDepth : Nat := 128

namespace Shape

inductive Fault where
  | tooDeep (limit : Nat)
  | emptyUnion
  | duplicateField (name : String)
deriving DecidableEq

structure Violation where
  fault : Fault
  path : Path
deriving DecidableEq

namespace Violation

def here (fault : Fault) : Violation := ⟨fault, []⟩

def under (step : Step) (e : Violation) : Violation := { e with path := step :: e.path }

def message (e : Violation) : String :=
  let place := "`" ++ e.path.text ++ "`"
  match e.fault with
  | .tooDeep limit =>
      "shape nesting exceeds depth limit " ++ Double.digitText limit ++ " at " ++ place
  | .emptyUnion => "empty union at " ++ place
  | .duplicateField name => "duplicate field `" ++ name ++ "` at " ++ place

/-- Report a violation in a part as one of the whole. -/
def within {α : Type} (step : Step) : Except Violation α → Except Violation α
  | .ok a => .ok a
  | .error e => .error (e.under step)

end Violation

/-- The check of a field: absence is accepted where the field is optional. -/
def fieldCheck (optional : Bool) (c : Check) : Check :=
  if optional then .optional c else c

mutual
/-- Compile a shape where `room` levels are left below a ceiling of `limit`. -/
def lower (limit : Nat) : Shape → (room : Nat) → Except Violation Check
  | _, 0 => .error (.here (.tooDeep limit))
  | .literal value, _ + 1 => .ok (.const value)
  | .primitive type, _ + 1 => .ok (.primitive type)
  | .any, _ + 1 => .ok .noop
  | .union members, room + 1 =>
      if members.isEmpty then .error (.here .emptyUnion)
      else (lowerAll limit .member 0 members room).map Check.union
  | .intersection members, room + 1 =>
      (lowerAll limit .member 0 members room).map Check.intersection
  | .tuple elements, room + 1 =>
      (lowerAll limit .element 0 elements room).map Check.tuple
  | .array element, room + 1 =>
      (Violation.within .item (lower limit element room)).map Check.array
  | .object fields, room + 1 =>
      (lowerFields limit 0 [] fields room).map Check.object
termination_by structural s => s

/-- Compile a list of shapes, the first of them `i` places from its start. -/
def lowerAll (limit : Nat) (step : Nat → Step) (i : Nat) :
    List Shape → (room : Nat) → Except Violation (List Check)
  | [], _ => .ok []
  | s :: rest, room =>
      match Violation.within (step i) (lower limit s room) with
      | .error e => .error e
      | .ok c => (lowerAll limit step (i + 1) rest room).map (c :: ·)
termination_by structural shapes => shapes

/-- Compile fields, the first of them `i` places from the start and after fields
of the names `seen`. -/
def lowerFields (limit : Nat) (i : Nat) (seen : List String) :
    List Field → (room : Nat) → Except Violation (List (String × Check))
  | [], _ => .ok []
  | ⟨name, shape, optional⟩ :: rest, room =>
      if name ∈ seen then .error (.here (.duplicateField name))
      else
        match Violation.within (.field i) (lower limit shape room) with
        | .error e => .error e
        | .ok c =>
            (lowerFields limit (i + 1) (name :: seen) rest room).map
              ((name, fieldCheck optional c) :: ·)
termination_by structural fields => fields
end

def compile (limit : Nat) (s : Shape) : Except Violation Check := lower limit s limit

end Shape

inductive CompileError where
  /-- the document is not a shape -/
  | shape (e : Shape.Error)
  | violation (e : Shape.Violation)
  /-- there is no shape -/
  | missingShape

def CompileError.message : CompileError → String
  | .shape e => e.message
  | .violation e => e.message
  | .missingShape => "missing type argument"

def Shape.compile? (limit : Nat) (s : Shape) : Except CompileError Check :=
  (s.compile limit).mapError CompileError.violation

end ShapeCheck
