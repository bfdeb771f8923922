import ShapeCheck.Shape.Node

/-!
# Shapes as documents

The document of a shape is an object that names the kind and holds the parts.  A
literal that stands for absence holds no value.
-/

namespace ShapeCheck

/-- The value of a literal in a document; none for absence.  A number that is not
finite has no form of its own there. -/
def Literal.toJson? : Literal → Option Json
  | .undefined => none
  | .null => some .null
  | .bool b => some (.bool b)
  | .number x => some (if x.isFinite then .number (.decimal x) else .null)
  | .text s => some (.text s)

namespace Shape

def tagged (kind : Kind) (members : List (String × Json)) : Json :=
  .object (("kind", .text kind.name) :: members)

mutual
def toJson : Shape → Json
  | .literal value =>
      tagged .literal (match value.toJson? with
        | some content => [("value", content)]
        | none => [])
  | .primitive type => tagged .primitive [("type", .text type.name)]
  | .any => tagged .any []
  | .union members => tagged .union [("members", .array (toJsonAll members))]
  | .intersection members =>
      tagged .intersection [("members", .array (toJsonAll members))]
  | .tuple elements => tagged .tuple [("elements", .array (toJsonAll elements))]
  | .array element => tagged .array [("element", element.toJson)]
  | .object fields => tagged .object [("fields", .array (toJsonFields fields))]
termination_by structural s => s

def toJsonAll : List Shape → List Json
  | [] => []
  | s :: rest => s.toJson :: toJsonAll rest
termination_by structural shapes => shapes

def toJsonFields : List Field → List Json
  | [] => []
  | ⟨name, shape, optional⟩ :: rest =>
      .object [("name", .text name), ("shape", shape.toJson), ("optional", .bool optional)] ::
        toJsonFields rest
termination_by structural fields => fields
end

end Shape
end ShapeCheck
