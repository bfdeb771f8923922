import ShapeCheck.Json.Mismatch
import ShapeCheck.Shape.Basic

/-!
# Why a document is not a shape

A fault has a cause and the path of the shape in which it lies.
-/

namespace ShapeCheck
namespace Shape

inductive Feature where
  | noKind
  | kind (name : String)
  | primitiveType (name : String)
  | arrayLiteral
  | objectLiteral
deriving DecidableEq

def Feature.message : Feature → String
  | .noKind => "missing `kind`"
  | .kind name => "kind `" ++ name ++ "`"
  | .primitiveType name => "primitive type `" ++ name ++ "`"
  | .arrayLiteral => "array literal"
  | .objectLiteral => "object literal"

inductive Cause where
  | unsupported (feature : Feature)
  /-- the kind is no string -/
  | kindNotString (kind : Json)
  | malformed (reason : Json.Mismatch)
  | emptyUnion
  | duplicateField (name : String)

structure Error where
  cause : Cause
  path : Path

namespace Error

def here (cause : Cause) : Error := ⟨cause, []⟩

def under (step : Step) (e : Error) : Error := { e with path := step :: e.path }

def message (e : Error) : String :=
  let place := "`" ++ e.path.text ++ "`"
  match e.cause with
  | .unsupported feature => "unsupported shape at " ++ place ++ ": " ++ feature.message
  | .kindNotString kind =>
      "malformed shape at " ++ place ++ ": `kind` must be a string, found " ++
        kind.compact
  | .malformed reason => "malformed shape at " ++ place ++ ": " ++ reason.message
  | .emptyUnion => "empty union at " ++ place
  | .duplicateField name => "duplicate field `" ++ name ++ "` at " ++ place

end Error

end Shape
end ShapeCheck
