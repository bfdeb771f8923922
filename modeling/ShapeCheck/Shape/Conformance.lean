import ShapeCheck.Shape.Basic

/-!
# Conformance

What a shape says about a value, read off the shape itself.  A member of an object
that is not there counts as undefined.
-/

namespace ShapeCheck
namespace Shape

mutual
def conforms : Shape → Value → Bool
  | .literal value, v => value.accepts v
  | .primitive type, v => type.accepts v
  | .any, _ => true
  | .union members, v => conformsToSome members v
  | .intersection members, v => conformsToAll members v
  | .tuple elements, v =>
      match v with
      | .array items => conformPlaceByPlace elements items
      | _ => false
  | .array element, v =>
      match v with
      | .array items => items.all (fun item => element.conforms item)
      | _ => false
  | .object fields, v =>
      match v with
      | .object members =>
          members.all (fun m => fields.any (fun f => f.name == m.1)) &&
            fieldsConform fields members
      | _ => false
termination_by structural s => s

def conformsToSome : List Shape → Value → Bool
  | [], _ => false
  | s :: rest, v => s.conforms v || conformsToSome rest v
termination_by structural shapes => shapes

def conformsToAll : List Shape → Value → Bool
  | [], _ => true
  | s :: rest, v => s.conforms v && conformsToAll rest v
termination_by structural shapes => shapes

/-- Whether there are as many values as shapes, each of its form. -/
def conformPlaceByPlace : List Shape → List Value → Bool
  | [], [] => true
  | s :: rest, v :: values => s.conforms v && conformPlaceByPlace rest values
  | _, _ => false
termination_by structural shapes => shapes

def fieldsConform : List Field → List (String × Value) → Bool
  | [], _ => true
  | ⟨name, shape, optional⟩ :: rest, members =>
      let content := Value.memberOrUndefined members name
      ((optional && content.isUndefined) || shape.conforms content) &&
        fieldsConform rest members
termination_by structural fields => fields
end

/-! ## Absence -/

mutual
/-- Whether a shape allows that there is nothing. -/
def admitsAbsence : Shape → Bool
  | .any => true
  | .literal .undefined => true
  | .union members => someAdmitsAbsence members
  | .intersection members => allAdmitAbsence members
  | _ => false
termination_by structural s => s

def someAdmitsAbsence : List Shape → Bool
  | [] => false
  | s :: rest => s.admitsAbsence || someAdmitsAbsence rest
termination_by structural shapes => shapes

def allAdmitAbsence : List Shape → Bool
  | [] => true
  | s :: rest => s.admitsAbsence && allAdmitAbsence rest
termination_by structural shapes => shapes
end

end Shape
end ShapeCheck
