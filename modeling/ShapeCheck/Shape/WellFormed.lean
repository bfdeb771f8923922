import ShapeCheck.Shape.Basic

/-!
# Well-formed shapes

How deep a shape nests, and what a shape has to satisfy to make sense: unions have
members, field names differ, number literals are finite.
-/

namespace ShapeCheck
namespace Shape

mutual
/-- How deep a shape nests: one for a shape without parts. -/
def depth : Shape → Nat
  | .union members => depths members + 1
  | .intersection members => depths members + 1
  | .tuple elements => depths elements + 1
  | .array element => element.depth + 1
  | .object fields => depthsOfFields fields + 1
  | _ => 1
termination_by structural s => s

def depths : List Shape → Nat
  | [] => 0
  | s :: rest => max s.depth (depths rest)
termination_by structural shapes => shapes

def depthsOfFields : List Field → Nat
  | [] => 0
  | ⟨_, shape, _⟩ :: rest => max shape.depth (depthsOfFields rest)
termination_by structural fields => fields
end

def fieldNames (fields : List Field) : List String := fields.map Field.name

mutual
/-- Whether every union has a member and all field names of an object differ. -/
def isSound : Shape → Bool
  | .union members => !members.isEmpty && areSound members
  | .intersection members => areSound members
  | .tuple elements => areSound elements
  | .array element => element.isSound
  | .object fields => decide (fieldNames fields).Nodup && fieldsAreSound fields
  | _ => true
termination_by structural s => s

def areSound : List Shape → Bool
  | [] => true
  | s :: rest => s.isSound && areSound rest
termination_by structural shapes => shapes

def fieldsAreSound : List Field → Bool
  | [] => true
  | ⟨_, shape, _⟩ :: rest => shape.isSound && fieldsAreSound rest
termination_by structural fields => fields
end

def literalIsFinite : Literal → Bool
  | .number x => x.isFinite
  | _ => true

mutual
def isFinite : Shape → Bool
  | .literal value => literalIsFinite value
  | .union members => areFinite members
  | .intersection members => areFinite members
  | .tuple elements => areFinite elements
  | .array element => element.isFinite
  | .object fields => fieldsAreFinite fields
  | _ => true
termination_by structural s => s

def areFinite : List Shape → Bool
  | [] => true
  | s :: rest => s.isFinite && areFinite rest
termination_by structural shapes => shapes

def fieldsAreFinite : List Field → Bool
  | [] => true
  | ⟨_, shape, _⟩ :: rest => shape.isFinite && fieldsAreFinite rest
termination_by structural fields => fields
end

end Shape
end ShapeCheck
