import ShapeCheck.Double.Layout
import ShapeCheck.Text.Quoted
import ShapeCheck.Value.Basic

/-!
# Literals

Scalar values that a shape can ask for exactly.
-/

namespace ShapeCheck

inductive Literal where
  | undefined
  | null
  | bool (b : Bool)
  | number (x : Double)
  | text (s : String)
deriving DecidableEq

namespace Literal

/-- Strict equality of a literal with a value. -/
def accepts : Literal → Value → Bool
  | .undefined, .undefined => true
  | .null, .null => true
  | .bool a, .bool b => a == b
  | .number x, .number y => x.same y
  | .text s, .text t => s == t
  | _, _ => false

def print : Literal → String
  | .undefined => "undefined"
  | .null => "null"
  | .bool true => "true"
  | .bool false => "false"
  | .number x => x.plainText
  | .text s => quote s

end Literal

end ShapeCheck
