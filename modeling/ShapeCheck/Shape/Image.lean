import ShapeCheck.Check.Basic

/-!
# The image of a shape

Each form of shape has a combinator.  The image of a shape puts them together,
part by part and in the same order, and wraps optional fields.
-/

namespace ShapeCheck
namespace Shape

mutual
def image : Shape → Check
  | .literal value => .const value
  | .primitive type => .primitive type
  | .any => .noop
  | .union members => .union (images members)
  | .intersection members => .intersection (images members)
  | .tuple elements => .tuple (images elements)
  | .array element => .array element.image
  | .object fields => .object (imagesOfFields fields)
termination_by structural s => s

def images : List Shape → List Check
  | [] => []
  | s :: rest => s.image :: images rest
termination_by structural shapes => shapes

def imagesOfFields : List Field → List (String × Check)
  | [] => []
  | ⟨name, shape, optional⟩ :: rest =>
      (name, if optional then .optional shape.image else shape.image) ::
        imagesOfFields rest
termination_by structural fields => fields
end

end Shape
end ShapeCheck
